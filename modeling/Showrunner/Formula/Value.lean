import Showrunner.Decimal.Notation
import Showrunner.Expression.Value

namespace Showrunner.Formula

/-- Values of formulas. Integers have 64 bits with a sign. -/
inductive Value where
  | unit
  | int (n : Int)
  | float (x : Float)
  | bool (b : Bool)
  | str (s : String)

def Value.text : Value → String
  | .unit => ""
  | .int n => toString n
  | .float x => Decimal.numberText x
  | .bool b => Expression.boolText b
  | .str s => s

def mostPlain : Float := 9999999827968

def leastPlain : Float := 9.9999998245167e-14

def floatText (x : Float) : String :=
  match Decimal.reading x with
  | .finite negative m q =>
    let s := Decimal.shortest m q
    if m == 0 then "0.0"
    else if mostPlain < x.abs || x.abs < leastPlain then Decimal.withSign negative s.exponential
    else if 0 ≤ s.exponent then Decimal.plain x ++ ".0"
    else Decimal.plain x
  | _ => Decimal.plain x

def Value.piece : Value → String
  | .unit => ""
  | .int n => toString n
  | .float x => floatText x
  | .bool b => if b then "true" else "false"
  | .str s => s

def checked? (n : Int) : Option Value :=
  if Decimal.leastInt ≤ n ∧ n ≤ Decimal.greatestInt then some (.int n) else none

/-- A power with a natural exponent of at most 32 bits. Exponents that must overflow are settled
first. -/
def power? (base exponent : Int) : Option Value :=
  if exponent < 0 ∨ Decimal.twoTo 32 ≤ exponent then none
  else if base.natAbs ≤ 1 then
    some (.int (if base = -1 then (if exponent % 2 = 0 then 1 else -1)
      else if exponent = 0 then 1 else base))
  else if 63 < exponent then none
  else checked? (base.pow exponent.toNat)

/-- Arithmetic and comparison of integers. Division goes toward zero. -/
def onInts? (op : String) (a b : Int) : Option Value :=
  match op with
  | "+" => checked? (a + b)
  | "-" => checked? (a - b)
  | "*" => checked? (a * b)
  | "/" => if b = 0 then none else checked? (a.tdiv b)
  | "%" => if b = 0 ∨ (a = Decimal.leastInt ∧ b = -1) then none else some (.int (a.tmod b))
  | "**" => power? a b
  | "==" => some (.bool (a = b))
  | "!=" => some (.bool (a ≠ b))
  | "<" => some (.bool (a < b))
  | "<=" => some (.bool (a ≤ b))
  | ">" => some (.bool (b < a))
  | ">=" => some (.bool (b ≤ a))
  | _ => none

def floatRemainder (x y : Float) : Float :=
  match Decimal.reading x, Decimal.reading y with
  | .finite negative m q, .finite _ n r =>
    if n = 0 then 0 / 0
    else
      let k := min q r
      let rest := (m * Decimal.twoTo (q - k).toNat) % (n * Decimal.twoTo (r - k).toNat)
      let size := Float.scaleB (Float.ofNat rest) k
      if negative then -size else size
  | .finite _ _ _, .infinite _ => x
  | _, _ => 0 / 0

def tolerance : Float := Float.scaleB 1 (-52)

def measure (x y : Float) : Float :=
  if x * y == 0 then 1 else if x.abs < y.abs then y.abs else x.abs

def excess (x y : Float) : Float := (x - y) / measure x y

/-- Floats that differ by no more than the tolerance are equal. Nothing compares with a float that
is not a number, nor with an infinite one. -/
def onFloats? (op : String) (x y : Float) : Option Value :=
  match op with
  | "+" => some (.float (x + y))
  | "-" => some (.float (x - y))
  | "*" => some (.float (x * y))
  | "/" => some (.float (x / y))
  | "%" => some (.float (floatRemainder x y))
  | "**" => some (.float (x.pow y))
  | "==" => some (.bool ((x - y).abs / measure x y ≤ tolerance))
  | "!=" => some (.bool (tolerance < (x - y).abs / measure x y))
  | "<" => some (.bool (tolerance < excess y x))
  | "<=" => some (.bool (-tolerance < excess y x))
  | ">" => some (.bool (tolerance < excess x y))
  | ">=" => some (.bool (-tolerance < excess x y))
  | _ => none

def onStrings? (op : String) (s t : String) : Option Value :=
  match op with
  | "+" => some (.str (s ++ t))
  | "==" => some (.bool (s = t))
  | "!=" => some (.bool (s ≠ t))
  | "<" => some (.bool (s < t))
  | "<=" => some (.bool (s ≤ t))
  | ">" => some (.bool (t < s))
  | ">=" => some (.bool (t ≤ s))
  | _ => none

def onBools? (op : String) (a b : Bool) : Option Value :=
  match op with
  | "==" => some (.bool (a == b))
  | "!=" => some (.bool (a != b))
  | "<" => some (.bool (!a && b))
  | "<=" => some (.bool (!a || b))
  | ">" => some (.bool (a && !b))
  | ">=" => some (.bool (a || !b))
  | _ => none

def onOthers? (op : String) (same : Bool) : Option Value :=
  match op with
  | "==" => some (.bool same)
  | "!=" => some (.bool !same)
  | "<" | "<=" | ">" | ">=" => some (.bool false)
  | _ => none

def onText? (op : String) (a b : Value) : Option Value :=
  if op == "+" then some (.str (a.piece ++ b.piece)) else onOthers? op false

/-- An integer beside a float counts as a float. -/
def binary? (op : String) (a b : Value) : Option Value :=
  match a, b with
  | .int a, .int b => onInts? op a b
  | .int a, .float y => onFloats? op (.ofInt a) y
  | .float x, .int b => onFloats? op x (.ofInt b)
  | .float x, .float y => onFloats? op x y
  | .str s, .str t => onStrings? op s t
  | .bool a, .bool b => onBools? op a b
  | .str _, _ | _, .str _ => onText? op a b
  | .unit, .unit => onOthers? op true
  | _, _ => onOthers? op false

end Showrunner.Formula
