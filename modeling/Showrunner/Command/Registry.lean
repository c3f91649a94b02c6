import Showrunner.Pattern.Match

namespace Showrunner

inductive Handler where
  | echo
  | useFolder
  | load
  | unload
  | play
  | volume
  | place
  | put
  | window
  | zoomWindow
  | moveWindow
  | remove
  | move
  | speed
  | blur
  | resize
  | rescale
  | rotate
  | depth
  | frame
  | rate
  | brightness
  | transparency
  | start
  | stop
  | visibility
  | pause
  | resume
  | assign
  | create
  | setText
  | setFont
  | addToGroup
  | dump
  | exit
deriving DecidableEq, Repr

/-- A command line is recognised by its pattern. Several commands may share an id. -/
structure Command where
  id : String
  pattern : Pattern.Spec
  handler : Handler
  help : String

/-- Commands in the order in which lines are tried against them. -/
structure Registry where
  commands : List Command

namespace Registry

def empty : Registry := ⟨[]⟩

def compile (id pattern : String) (handler : Handler) (help : String) :
    Except Pattern.SpecError Command :=
  (Pattern.Spec.read pattern).map fun spec => ⟨id, spec, handler, help⟩

/-- A call that edits a registry, and may fail before or after it did. -/
abbrev Editing := ExceptT Pattern.SpecError (StateM Registry)

def register (id pattern : String) (handler : Handler) (help : String) : Editing Unit := do
  let c ← compile id pattern handler help
  modify fun r => ⟨r.commands ++ [c]⟩

/-- Puts a command before the first one with an id, or at the end if no command has it. -/
def placeBefore (before : String) (c : Command) : List Command → List Command
  | [] => [c]
  | d :: ds => if d.id = before then c :: d :: ds else d :: placeBefore before c ds

def insertBefore (before id pattern : String) (handler : Handler) (help : String) :
    Editing Unit := do
  let c ← compile id pattern handler help
  modify fun r => ⟨placeBefore before c r.commands⟩

def remove (id : String) : Editing Bool := do
  let found := (← get).commands.any fun c => c.id == id
  modify fun r => ⟨r.commands.filter fun c => c.id != id⟩
  return found

def find? (r : Registry) (words : List String) : Option (Command × Pattern.Match) :=
  r.commands.findSome? fun c => (c.pattern.matchWords? words).map (c, ·)

def ids (r : Registry) : List String := r.commands.map (·.id)

def help (r : Registry) : List String := r.commands.map (·.help)

end Registry
end Showrunner
