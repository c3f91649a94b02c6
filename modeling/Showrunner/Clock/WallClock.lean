namespace Showrunner

inductive Weekday where
  | monday
  | tuesday
  | wednesday
  | thursday
  | friday
  | saturday
  | sunday
deriving DecidableEq, Repr

def Weekday.name : Weekday → String
  | .monday => "Monday"
  | .tuesday => "Tuesday"
  | .wednesday => "Wednesday"
  | .thursday => "Thursday"
  | .friday => "Friday"
  | .saturday => "Saturday"
  | .sunday => "Sunday"

/-- The weekday of a day counted from Thursday the first of January 1970. -/
def Weekday.ofDay (day : Int) : Weekday :=
  match (day % 7).toNat with
  | 0 => .thursday
  | 1 => .friday
  | 2 => .saturday
  | 3 => .sunday
  | 4 => .monday
  | 5 => .tuesday
  | _ => .wednesday

structure WallClock where
  year : Int
  month : Nat
  day : Nat
  weekday : Weekday
  hour : Nat
  minute : Nat
  second : Nat
deriving DecidableEq, Repr

namespace WallClock

def ofTime (hour minute second : Nat) : WallClock := ⟨2000, 1, 1, .saturday, hour, minute, second⟩

def midnight : WallClock := .ofTime 0 0 0

instance : Inhabited WallClock := ⟨midnight⟩

/-- Year, month and day of a day counted from the first of January 1970. Years are counted from
March, so that a leap day is the last day of its year. -/
def date (day : Int) : Int × Nat × Nat :=
  let n := day + 719468
  let era := n / 146097
  let dayOfEra := (n % 146097).toNat
  let yearOfEra :=
    (dayOfEra - dayOfEra / 1460 + dayOfEra / 36524 - dayOfEra / 146096) / 365
  let dayOfYear := dayOfEra - (365 * yearOfEra + yearOfEra / 4 - yearOfEra / 100)
  let monthFromMarch := (5 * dayOfYear + 2) / 153
  let dayOfMonth := dayOfYear - (153 * monthFromMarch + 2) / 5 + 1
  let month := if monthFromMarch < 10 then monthFromMarch + 3 else monthFromMarch - 9
  (yearOfEra + era * 400 + (if month ≤ 2 then 1 else 0), month, dayOfMonth)

def ofUnix (seconds : Int) : WallClock :=
  let day := seconds / 86400
  let rest := (seconds % 86400).toNat
  let (year, month, dayOfMonth) := date day
  ⟨year, month, dayOfMonth, .ofDay day, rest / 3600, rest / 60 % 60, rest % 60⟩

end WallClock

/-- The two clocks of a frame: milliseconds since the show began, and the wall clock. -/
structure FrameClock where
  elapsed : Nat
  wall : WallClock
deriving DecidableEq, Repr

end Showrunner
