import Showrunner.Clock.TimeOfDay

namespace Showrunner

inductive TimeField where
  | any
  | exact (n : Nat)
deriving DecidableEq, Repr

structure TimePattern where
  hour : TimeField
  minute : TimeField
  second : TimeField
deriving DecidableEq, Repr

namespace TimeField

def read? (text : String) : Option TimeField :=
  if text == "*" then some .any else (byteField? text).map .exact

def accepts (n : Nat) : TimeField → Bool
  | .any => true
  | .exact m => m == n

end TimeField

namespace TimePattern

/-- Reads `ss`, `mm:ss` or `hh:mm:ss`. Only the last three fields count, and a star accepts any
value. -/
def read? (text : String) : Option TimePattern := do
  let fields ← ((clockFields text).reverse.take 3).mapM TimeField.read?
  return {
    second := fields.getD 0 .any
    minute := fields.getD 1 .any
    hour := fields.getD 2 .any }

def accepts (p : TimePattern) (wall : WallClock) : Bool :=
  p.hour.accepts wall.hour && p.minute.accepts wall.minute && p.second.accepts wall.second

end TimePattern
end Showrunner
