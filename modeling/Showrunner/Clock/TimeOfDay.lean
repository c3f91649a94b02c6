import Showrunner.Clock.WallClock
import Showrunner.Decimal.Reader
import Showrunner.Text.Split
import Showrunner.Text.Words

namespace Showrunner

structure TimeOfDay where
  hour : Nat
  minute : Nat
  second : Nat
deriving DecidableEq, Repr

def clockFields (text : String) : List String :=
  let (first, others) := Text.splitOn ':' text
  (first :: others).map Text.trim

def byteField? (text : String) : Option Nat := Decimal.readBelow? 256 text

namespace TimeOfDay

/-- Reads `hh`, `hh:mm` or `hh:mm:ss` and ignores further fields. -/
def read? (text : String) : Option TimeOfDay := do
  let fields ← ((clockFields text).take 3).mapM byteField?
  let time : TimeOfDay := ⟨fields.getD 0 0, fields.getD 1 0, fields.getD 2 0⟩
  if time.hour < 24 ∧ time.minute < 60 ∧ time.second < 60 then some time else none

/-- The clock shows the minute of the time, at its second or after it. -/
def reached (t : TimeOfDay) (wall : WallClock) : Bool :=
  wall.hour == t.hour && wall.minute == t.minute && t.second ≤ wall.second

end TimeOfDay
end Showrunner
