import Showrunner.Text.Words
import Showrunner.Trigger.Kind

namespace Showrunner.Scene

/-- Trigger lines and the action lines after them, which they gate. -/
structure Group where
  declarations : List Trigger.Declaration
  actions : List String
deriving DecidableEq, Repr

namespace Group

def isEmpty (g : Group) : Bool := g.declarations.isEmpty && g.actions.isEmpty

def isStartOnly (g : Group) : Bool :=
  !g.declarations.isEmpty && g.declarations.all (·.kind == .start)

end Group

/-- Groups the lines that follow an open group. A trigger line joins the open group unless that
group already has actions. -/
def groupsFrom (current : Group) : List String → List Group
  | [] => if current.isEmpty then [] else [current]
  | line :: rest =>
    let text := Text.trim line
    if text.isEmpty then groupsFrom current rest
    else match Trigger.classify? (Text.words text) with
      | some d =>
        if current.actions.isEmpty then
          groupsFrom { current with declarations := current.declarations ++ [d] } rest
        else current :: groupsFrom ⟨[d], []⟩ rest
      | none => groupsFrom { current with actions := current.actions ++ [text] } rest

def groups (lines : List String) : List Group := groupsFrom ⟨[], []⟩ lines

end Showrunner.Scene
