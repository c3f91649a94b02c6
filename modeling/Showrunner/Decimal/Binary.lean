namespace Showrunner.Decimal

def twoTo (n : Nat) : Nat := Nat.pow 2 n

def tenTo (n : Nat) : Nat := Nat.pow 10 n

def leastInt : Int := -twoTo 63

def greatestInt : Int := twoTo 63 - 1

/-- The negation in 64 bits, where the least integer is its own. -/
def opposite (n : Int) : Int := if n = leastInt then n else -n

/-- What a floating-point number stands for: `m * 2 ^ q` under a sign, an infinity, or nothing. -/
inductive Reading where
  | nan
  | infinite (negative : Bool)
  | finite (negative : Bool) (m : Nat) (q : Int)
deriving DecidableEq

def Reading.ofBits (bits : Nat) : Reading :=
  let negative : Bool := twoTo 63 ≤ bits
  let exponent : Nat := bits / twoTo 52 % twoTo 11
  let fraction : Nat := bits % twoTo 52
  if exponent == twoTo 11 - 1 then
    if fraction == 0 then .infinite negative else .nan
  else if exponent == 0 then .finite negative fraction (-1074)
  else .finite negative (twoTo 52 + fraction) ((exponent : Int) - 1075)

def reading (x : Float) : Reading := .ofBits x.toBits.toNat

def signed (negative : Bool) (n : Nat) : Int := if negative then -n else n

def whole? (x : Float) : Option Int :=
  match reading x with
  | .finite negative m q =>
    if 0 ≤ q then some (signed negative (m * twoTo q.toNat))
    else if m % twoTo (-q).toNat == 0 then some (signed negative (m / twoTo (-q).toNat))
    else none
  | _ => none

/-- The integer that a rule for magnitudes gives, held between two bounds. What is not a number
counts as zero. -/
def roundedBy (rule : Nat → Nat → Nat) (least greatest : Int) (x : Float) : Int :=
  match reading x with
  | .nan => 0
  | .infinite negative => if negative then least else greatest
  | .finite negative m q =>
    let n := signed negative (rule (m * twoTo q.toNat) (twoTo (-q).toNat))
    max least (min greatest n)

/-- The nearest integer between the bounds. A half is rounded away from zero. -/
def nearest : Int → Int → Float → Int :=
  roundedBy fun n d => (2 * n + d) / (2 * d)

def truncated : Int → Int → Float → Int := roundedBy fun n d => n / d

end Showrunner.Decimal
