import Showrunner.Decimal.Binary
import Showrunner.Decimal.Shortest

namespace Showrunner.Decimal

def zeros (n : Nat) : List Char := .replicate n '0'

def Scientific.positional (s : Scientific) : List Char :=
  let ds := Nat.toDigits 10 s.digits
  if 0 ≤ s.exponent then ds ++ zeros s.exponent.toNat
  else
    let places := (-s.exponent).toNat
    if places < ds.length then
      ds.take (ds.length - places) ++ '.' :: ds.drop (ds.length - places)
    else '0' :: '.' :: zeros (places - ds.length) ++ ds

def Scientific.exponential (s : Scientific) : List Char :=
  let ds := Nat.toDigits 10 s.digits
  let power := s.exponent + (ds.length - 1 : Nat)
  let fraction := if ds.length ≤ 1 then [] else '.' :: ds.drop 1
  ds.take 1 ++ fraction ++ 'e' :: (toString power).toList

def withSign (negative : Bool) (s : List Char) : String :=
  .ofList (if negative then '-' :: s else s)

/-- The shortest text that reads back, never with an exponent. -/
def plain (x : Float) : String :=
  match reading x with
  | .nan => "NaN"
  | .infinite negative => withSign negative "inf".toList
  | .finite negative m q => withSign negative (shortest m q).positional

/-- As `plain`, but an integer shows a fraction `.0`, and numbers from `10 ^ 16` on or below
`10 ^ -4` show an exponent. -/
def pointed (x : Float) : String :=
  match reading x with
  | .finite negative m q =>
    let size := x.abs
    let s := shortest m q
    if 1e16 ≤ size || (size != 0 && size < 1e-4) then withSign negative s.exponential
    else if 0 ≤ s.exponent then withSign negative (s.positional ++ ['.', '0'])
    else withSign negative s.positional
  | _ => plain x

/-- The text of a number in a script: integers below `10 ^ 15` as integers, all else as `plain`. -/
def numberText (x : Float) : String :=
  match whole? x with
  | some n => if n.natAbs < tenTo 15 then toString n else plain x
  | none => plain x

end Showrunner.Decimal
