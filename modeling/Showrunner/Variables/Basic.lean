import Showrunner.Clock.WallClock
import Showrunner.Decimal.Notation
import Showrunner.Scene.Basic
import Showrunner.Stage.Basic

namespace Showrunner

/-- The variables of a show, in one store. A variable of a scene has the scene's name and a colon
before its own. What the names of the clock, the pointer and the display mean is kept beside. -/
structure Variables where
  values : Table String
  wall : WallClock
  pointer : Float × Float
  display : Nat × Nat
  framerate : Nat

namespace Variables

def initial : Table String :=
  ((((Table.empty.insert "KEY" "none").insert "LASTKEY" "none").insert "CLICKX" "0").insert
    "CLICKY" "0").insert "TRIGGER" "none"

def start (display : Nat × Nat) (framerate : Nat) : Variables :=
  ⟨initial, .midnight, (0, 0), display, framerate⟩

/-- The name under which a scene's variable is stored. A leading colon names the top level, and a
colon elsewhere means that the name is whole already. -/
def qualify (name scene : String) : String :=
  match name.toList with
  | ':' :: top => .ofList top
  | cs => if scene == topLevel || cs.contains ':' then name else scene ++ ":" ++ name

def set (v : Variables) (name value scene : String) : Variables :=
  { v with values := v.values.insert (qualify name scene) value }

/-- A variable as a scene sees it: its own, or else that of the top level. -/
def get? (v : Variables) (name scene : String) : Option String :=
  match name.toList with
  | ':' :: top => v.values.get? (.ofList top)
  | _ => (v.values.get? (qualify name scene)).or (v.values.get? name)

def isOwned (scene key : String) : Bool := (scene ++ ":").toList.isPrefixOf key.toList

/-- Drops the variables of a scene. -/
def purge (v : Variables) (scene : String) : Variables :=
  { v with values := v.values.filter fun key _ => !isOwned scene key }

def dump (v : Variables) (scene : String) : List (String × String) :=
  v.values.entries.filter fun (key, _) => scene == topLevel || isOwned scene key

end Variables
end Showrunner
