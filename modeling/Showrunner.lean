import Showrunner.Clock.Duration
import Showrunner.Console
import Showrunner.Decimal.Notation
import Showrunner.Decimal.Reader
import Showrunner.Disk.Folder
import Showrunner.Expression.Evaluator
import Showrunner.Formula.Evaluator
import Showrunner.Main
import Showrunner.Pattern.Match
import Showrunner.Proofs.Clock.Phrase
import Showrunner.Proofs.Command.Act
import Showrunner.Proofs.Command.Builtin
import Showrunner.Proofs.Command.Edits
import Showrunner.Proofs.Command.Move
import Showrunner.Proofs.Decimal.Numeral
import Showrunner.Proofs.Decimal.Quotient
import Showrunner.Proofs.Decimal.Sign
import Showrunner.Proofs.Expression.Brackets
import Showrunner.Proofs.Expression.Enclosed
import Showrunner.Proofs.Expression.Grammar
import Showrunner.Proofs.Expression.Lexeme
import Showrunner.Proofs.Expression.Meaning
import Showrunner.Proofs.Expression.Reading
import Showrunner.Proofs.Expression.Term
import Showrunner.Proofs.Pattern.Consumption
import Showrunner.Proofs.Pattern.Grammar
import Showrunner.Proofs.Scene.Coherence
import Showrunner.Proofs.Scene.Segments
import Showrunner.Proofs.Script.Asking
import Showrunner.Proofs.Script.Comments
import Showrunner.Proofs.Script.Definitions
import Showrunner.Proofs.Script.Faithful
import Showrunner.Proofs.Script.Follow
import Showrunner.Proofs.Script.Log
import Showrunner.Proofs.Script.Recording
import Showrunner.Proofs.Script.Trail
import Showrunner.Proofs.Script.Unread
import Showrunner.Proofs.Script.Unstarted
import Showrunner.Proofs.Show.Assignment
import Showrunner.Proofs.Show.Build
import Showrunner.Proofs.Show.Calls
import Showrunner.Proofs.Show.Coherence
import Showrunner.Proofs.Show.Completion
import Showrunner.Proofs.Show.Conditions
import Showrunner.Proofs.Show.Declared
import Showrunner.Proofs.Show.Depth
import Showrunner.Proofs.Show.Echo
import Showrunner.Proofs.Show.Failure
import Showrunner.Proofs.Show.Guarded
import Showrunner.Proofs.Show.Held
import Showrunner.Proofs.Show.Isolation
import Showrunner.Proofs.Show.Keyboard
import Showrunner.Proofs.Show.Levels
import Showrunner.Proofs.Show.Placement
import Showrunner.Proofs.Show.Presses
import Showrunner.Proofs.Show.Running
import Showrunner.Proofs.Show.SharedTags
import Showrunner.Proofs.Show.Tags
import Showrunner.Proofs.Trigger.Firing
import Showrunner.Proofs.Trigger.Recognition
import Showrunner.Proofs.Trigger.Recurrence
import Showrunner.Proofs.Variables.Condition
import Showrunner.Proofs.Variables.Outermost
import Showrunner.Proofs.Variables.Rendering
import Showrunner.Runner
import Showrunner.Scene.Group
import Showrunner.Script.Loader
import Showrunner.Settings
import Showrunner.Show.Frame
import Showrunner.Table
import Showrunner.Text.Lowercase
import Showrunner.Text.Numeral
import Showrunner.Text.Quoted
import Showrunner.Text.Split
import Showrunner.Text.Words
import Showrunner.Toml.Document
import Showrunner.Toml.Value
import Showrunner.Trigger.Basic
import Showrunner.Variables.Expansion
import Showrunner.Variables.Guard
import Showrunner.Variables.Span
