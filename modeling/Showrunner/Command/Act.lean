import Showrunner.Show.Basic

namespace Showrunner

/-- Whether an action is done for good after its command ran. -/
inductive Outcome where
  | again
  | complete
deriving DecidableEq, Repr

structure Invocation where
  scene : String
  found : Pattern.Match

namespace Invocation

def text? (inv : Invocation) (name : String) : Option String := inv.found.text? name

def list (inv : Invocation) (name : String) : List String := inv.found.list name

def hasHeadWord (inv : Invocation) (word : String) : Bool := inv.found.hasHeadWord word

def number? (inv : Invocation) (name : String) : Option Float := inv.found.number? name

def required (inv : Invocation) (name what : String) : Except CommandError String :=
  match inv.text? name with
  | some text => .ok text
  | none => .error (.expected what)

def number (inv : Invocation) (name what : String) : Except CommandError Float :=
  match inv.text? name with
  | none => .error (.expected what)
  | some text =>
    match Decimal.read? text with
    | some x => .ok x
    | none => .error (.unsuitable what text)

def chose (inv : Invocation) (name word : String) : Bool :=
  (inv.text? name).any fun choice => Text.sameIgnoringCase choice word

end Invocation

/-- A step of a command, which may change the show and may fail. -/
abbrev Act := ExceptT CommandError (StateM Show)

namespace Act

def send (e : Effect) : Act Unit := modify (·.send e)

def report (inv : Invocation) (p : Problem) : Act Unit := modify (·.report (p.within inv.scene))

def resolve (inv : Invocation) (kind : TagKind) (tag : String) : Act (Option String) :=
  modifyGet (·.resolveTag kind inv.scene tag)

def duration (text : Option String) : Act Float := modifyGet (·.readDuration text)

def seconds (inv : Invocation) : Act Float := duration (inv.text? "time")

def sendTo (inv : Invocation) (kind : TagKind) (tag : String) (effect : String → Effect) :
    Act Unit := do
  match ← resolve inv kind tag with
  | some name => send (effect name)
  | none => pure ()

def toSprite (inv : Invocation) (name : String) (effect : String → Effect) : Act Outcome := do
  let tag ← inv.required name "a sprite tag"
  sendTo inv .sprite tag effect
  return .again

def toEach (inv : Invocation) (kind : TagKind) (effect : String → Effect) :
    List String → Act Unit
  | [] => pure ()
  | tag :: tags => do
    sendTo inv kind tag effect
    toEach inv kind effect tags

end Act
end Showrunner
