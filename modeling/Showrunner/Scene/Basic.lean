import Showrunner.Disk.Path
import Showrunner.Scene.Group
import Showrunner.Trigger.Basic

namespace Showrunner

/-- The scene of the lines outside any block. -/
def topLevel : String := "main"

/-- A command line and the positions of the triggers that gate it. `expanded` is the line as it
was last performed. -/
structure Action where
  text : String
  expanded : Option String
  triggers : List Nat
  complete : Bool
deriving DecidableEq, Repr

def Action.ofText (text : String) (triggers : List Nat) : Action := ⟨text, none, triggers, false⟩

/-- A scene with its lines, and while it runs the triggers and actions made from them. Each start
and each stop begins a new generation. -/
structure Scene where
  name : String
  folder : Path
  fromFolder : String
  content : List String
  enabled : Bool
  actions : List Action
  triggers : List Trigger
  generation : Nat
deriving DecidableEq, Repr

namespace Scene

def ofContent (name : String) (folder : Path) (content : List String) : Scene :=
  ⟨name, folder, "", content, false, [], [], 0⟩

def isTopLevel (s : Scene) : Bool := s.name == topLevel

def resourceFolder (s : Scene) : Path :=
  if s.fromFolder.isEmpty then s.folder else s.folder.join ⟨s.fromFolder⟩

/-- The name for a thing that the scene makes. A leading colon puts it at the top level, and a
colon elsewhere means that the scene is already named. -/
def qualifyTag (s : Scene) (tag : String) : String :=
  match tag.toList with
  | ':' :: top => .ofList top
  | cs => if cs.contains ':' || s.isTopLevel then tag else s.name ++ ":" ++ tag

/-- The existing thing that a tag means: the scene's own before the one at the top level. -/
def resolveTag (s : Scene) (tag : String) (holds : String → Bool) : Option String :=
  match tag.toList with
  | [] => none
  | ':' :: top => if holds (.ofList top) then some (.ofList top) else none
  | cs =>
    if cs.contains ':' then
      if holds tag then some tag else none
    else if holds (s.name ++ ":" ++ tag) then some (s.name ++ ":" ++ tag)
    else if holds tag then some tag
    else none

def firstFired (s : Scene) (a : Action) : Option Trigger.Kind :=
  (a.triggers.filterMap (s.triggers[·]?)).find? (·.fired) |>.map (·.kind)

def gates (s : Scene) (a : Action) : List Trigger.Kind :=
  (a.triggers.filterMap (s.triggers[·]?)).map (·.kind)

def clearFired (s : Scene) : Scene :=
  { s with triggers := s.triggers.map fun t => { t with fired := false } }

def reset (s : Scene) : Scene :=
  { s with actions := [], triggers := [], generation := s.generation + 1 }

end Scene
end Showrunner
