import Showrunner.Text.Character

namespace Showrunner

/-- The user's last doings: the key press and the click that no trigger has taken yet, whether a
key was released, and the place of the pointer. -/
structure Input where
  key : Option String := none
  click : Option (Float × Float) := none
  released : Bool := false
  pointer : Float × Float := (0, 0)

namespace Input

def pressKey (i : Input) (name : String) : Input := { i with key := some name }

def releaseKey (i : Input) : Input := { i with released := true }

def clickAt (i : Input) (x y : Float) : Input := { i with click := some (x, y), pointer := (x, y) }

def movePointer (i : Input) (x y : Float) : Input := { i with pointer := (x, y) }

/-- A filter accepts the key it names up to ASCII case. No filter accepts every key. -/
def accepts (filter : Option String) (key : String) : Bool :=
  filter.all fun wanted => Text.sameIgnoringCase key wanted

def takeKey (i : Input) (filter : Option String) : Option String × Input :=
  match i.key with
  | none => (none, i)
  | some key => if accepts filter key then (some key, { i with key := none }) else (none, i)

def takeClick (i : Input) : Option (Float × Float) × Input := (i.click, { i with click := none })

def takeRelease (i : Input) : Bool × Input := (i.released, { i with released := false })

end Input
end Showrunner
