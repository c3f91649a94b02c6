import Showrunner.Text.Character

namespace Showrunner.Decimal

def natOf (ds : List Char) : Nat := ds.foldl (fun n c => 10 * n + (c.toNat - '0'.toNat)) 0

def isDigits (ds : List Char) : Bool := !ds.isEmpty && ds.all Char.isDigit

/-- The number nearest to `m * 10 ^ e`. Exponents far outside the range are settled first. -/
def scaled (m : Nat) (e : Int) : Float :=
  let size := (Nat.toDigits 10 m).length + e
  if m == 0 || size < -400 then 0
  else if 400 < size then 1 / 0
  else .ofScientific m (e < 0) e.natAbs

def exponent? : List Char → Option Int
  | [] => some 0
  | c :: s =>
    if c.toLower != 'e' then none
    else match s with
      | '-' :: ds => if isDigits ds then some (-natOf ds) else none
      | '+' :: ds => if isDigits ds then some (natOf ds) else none
      | ds => if isDigits ds then some (natOf ds) else none

def unsigned? (s : List Char) : Option Float :=
  let front := s.takeWhile Char.isDigit
  let (fraction, rest) := match s.dropWhile Char.isDigit with
    | '.' :: r => (r.takeWhile Char.isDigit, r.dropWhile Char.isDigit)
    | r => ([], r)
  if front.isEmpty && fraction.isEmpty then none
  else (exponent? rest).map fun e => scaled (natOf (front ++ fraction)) (e - fraction.length)

def magnitude? (s : List Char) : Option Float :=
  let name := s.map Char.toLower
  if name == "inf".toList || name == "infinity".toList then some (1 / 0)
  else if name == "nan".toList then some (0 / 0)
  else unsigned? s

def read? (s : String) : Option Float :=
  match s.toList with
  | '-' :: r => (magnitude? r).map fun x => -x
  | '+' :: r => magnitude? r
  | r => magnitude? r

def readBelow? (bound : Nat) (s : String) : Option Nat :=
  let ds := match s.toList with
    | '+' :: r => r
    | r => r
  if isDigits ds && natOf ds < bound then some (natOf ds) else none

end Showrunner.Decimal
