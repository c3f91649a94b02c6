import Showrunner.Decimal.Binary

namespace Showrunner.Decimal

structure Scientific where
  digits : Nat
  exponent : Int
deriving DecidableEq

/-- The reals that are read as `m * 2 ^ q`, in units of `2 ^ (q - 2)`. The gap below a power of
two is half as wide as the gap above it. The ends belong to it when `m` is even. -/
structure Interval where
  low : Nat
  mid : Nat
  high : Nat
  closed : Bool

def Interval.around (m : Nat) (q : Int) : Interval where
  low := if m == twoTo 52 && q != -1074 then 4 * m - 1 else 4 * m - 2
  mid := 4 * m
  high := 4 * m + 2
  closed := m % 2 == 0

/-- The multiple of `10 ^ k` in the interval that is nearest to its middle. Of two that are
equally near it is the greater one. -/
def Interval.onGrid? (i : Interval) (q k : Int) : Option Nat :=
  let a := tenTo k.toNat * twoTo (2 - q).toNat
  let b := tenTo (-k).toNat * twoTo (q - 2).toNat
  let lower := i.mid * b / a
  let fits d := if i.closed then i.low * b ≤ d * a && d * a ≤ i.high * b
    else i.low * b < d * a && d * a < i.high * b
  let upperNearer := (lower + 1) * a - i.mid * b ≤ i.mid * b - lower * a
  if fits (lower + 1) && (!fits lower || upperNearer) then some (lower + 1)
  else if fits lower then some lower
  else none

def Interval.search (i : Interval) (q : Int) : Nat → Int → Scientific
  | 0, k => ⟨0, k⟩
  | n + 1, k =>
    match i.onGrid? q k with
    | some d => ⟨d, k⟩
    | none => i.search q n (k - 1)

/-- The decimal number with the fewest digits that is read as `m * 2 ^ q`, and of those the
nearest. The search starts above the leading digit and ends after at most seventeen digits. -/
def shortest (m : Nat) (q : Int) : Scientific :=
  if m == 0 then ⟨0, 0⟩
  else (Interval.around m q).search q 22 ((m.log2 + q) * 30103 / 100000 + 2)

end Showrunner.Decimal
