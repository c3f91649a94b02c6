import Showrunner.Expression.Evaluator
import Showrunner.Pattern.Match

namespace Showrunner

inductive TagKind where
  | sprite
  | image
  | sound
  | resource
deriving DecidableEq, Repr

def TagKind.name : TagKind → String
  | .sprite => "sprite"
  | .image => "image"
  | .sound => "sound"
  | .resource => "resource"

inductive CommandError where
  | expected (what : String)
  | unsuitable (what found : String)
  | noScene (name : String)
  | unknownFontStyle (style : String)
  | unknownFontFeature (feature : String)
deriving DecidableEq, Repr

def CommandError.message : CommandError → String
  | .expected what => "expected " ++ what
  | .unsuitable what found => "expected " ++ what ++ " but found '" ++ found ++ "'"
  | .noScene name => "no scene named '" ++ name ++ "'"
  | .unknownFontStyle style => "unknown font style '" ++ style ++ "'"
  | .unknownFontFeature feature => "unknown font feature '" ++ feature ++ "'"

inductive LineFault where
  | noSceneName
  | reservedSceneName
  | strayEnd
  | noFileName
deriving DecidableEq, Repr

def LineFault.message : LineFault → String
  | .noSceneName => "expected a scene name"
  | .reservedSceneName => "'main' is reserved for top-level lines"
  | .strayEnd => "'end' must be followed by 'scene' or 'file'"
  | .noFileName => "expected a file name to include"

inductive Problem where
  | mismatch (m : Pattern.Mismatch)
  | badTimeOfDay (text : String)
  | badTimePattern (text : String)
  | unknownCommand (line : String)
  | noVariable (name : String)
  | noScene (name : String)
  | noTag (kind : TagKind) (tag : String)
  | noFile (path : String)
  | evaluation (e : EvalError)
  | badLine (source : String) (number : Nat) (fault : LineFault)
  | alreadyRead (path : String)
  | emptyScene (name : String)
  | redefinedScene (name : String)
  | noTopLevel
  | startedTooDeeply (name : String)
  | orphanActions (actions : List String)
  | topLevelStopped
  | startedNothing
  | unknownSection (name : String)
  | unknownFileKind (path : String)
  | commandFailed (id : String) (e : CommandError)

namespace Problem

inductive Kind where
  | grammar
  | unknownCommand
  | reference
  | evaluation
  | script
deriving DecidableEq, Repr

def Kind.label : Kind → String
  | .grammar => "grammar"
  | .unknownCommand => "unknown command"
  | .reference => "reference"
  | .evaluation => "evaluation"
  | .script => "script"

def kind : Problem → Kind
  | .mismatch _ | .badTimeOfDay _ | .badTimePattern _ => .grammar
  | .unknownCommand _ => .unknownCommand
  | .noVariable _ | .noScene _ | .noTag _ _ | .noFile _ => .reference
  | .evaluation _ => .evaluation
  | _ => .script

def message : Problem → String
  | .mismatch m => m.message
  | .badTimeOfDay text => "invalid time of day '" ++ text ++ "'"
  | .badTimePattern text => "invalid time pattern '" ++ text ++ "'"
  | .unknownCommand line => "'" ++ line ++ "'"
  | .noVariable name => "variable '" ++ name ++ "' not found"
  | .noScene name => "no scene named '" ++ name ++ "'"
  | .noTag kind tag => kind.name ++ " '" ++ tag ++ "' not found"
  | .noFile path => "file '" ++ path ++ "' not found"
  | .evaluation e => e.message
  | .badLine source number fault => source ++ ":" ++ toString number ++ ": " ++ fault.message
  | .alreadyRead path => "'" ++ path ++ "' is already being read, include skipped"
  | .emptyScene name => "scene '" ++ name ++ "' has no content and was dropped"
  | .redefinedScene name =>
    "scene '" ++ name ++ "' is defined more than once, keeping the last"
  | .noTopLevel => "no top-level actions, nothing will happen"
  | .startedTooDeeply name =>
    "scene '" ++ name ++ "' not started: scenes start each other too deeply"
  | .orphanActions actions =>
    "actions without a trigger ignored: '" ++ Text.joinWith "; " actions ++ "'"
  | .topLevelStopped => "the top-level scene cannot be stopped, use 'exit'"
  | .startedNothing => "start needs at least one scene name"
  | .unknownSection name => "nothing to dump called '" ++ name ++ "'"
  | .unknownFileKind path => "don't know how to load '" ++ path ++ "'"
  | .commandFailed id e => id ++ ": " ++ e.message

end Problem

/-- A problem and the scene it came from, if it came from one. -/
structure Diagnostic where
  scene : Option String
  problem : Problem

namespace Diagnostic

def render (d : Diagnostic) : String :=
  let text := d.problem.kind.label ++ " error: " ++ d.problem.message
  match d.scene with
  | some scene => "[" ++ scene ++ "] " ++ text
  | none => text

end Diagnostic

def Problem.within (p : Problem) (scene : String) : Diagnostic := ⟨some scene, p⟩

def Problem.anywhere (p : Problem) : Diagnostic := ⟨none, p⟩

end Showrunner
