import Showrunner.Expression.Lexer

namespace Showrunner.Expression

inductive Value where
  | num (x : Float)
  | str (s : String)
  | bool (b : Bool)

inductive Sign where
  | minus
  | plus
deriving DecidableEq, Repr

inductive TypeFault where
  | incomparable (left : Value) (op : Comparison) (right : Value)
  | notSubtractable (left right : Value)
  | notNumbers (op : Arithmetic) (left right : Value)
  | notSignable (sign : Sign) (operand : Value)

inductive Malformation where
  | lexical (e : LexError)
  | unexpected (token : Token)
  | endOfText
  | unclosed

inductive Failure where
  | malformed (reason : Malformation)
  | divisionByZero
  | illTyped (fault : TypeFault)

def boolText (b : Bool) : String := if b then "True" else "False"

namespace Value

def text : Value → String
  | .num x => Decimal.numberText x
  | .str s => s
  | .bool b => boolText b

def truthy : Value → Bool
  | .num x => x != 0
  | .str s => !s.isEmpty
  | .bool b => b

def number? : Value → Option Float
  | .num x => some x
  | .bool b => some (if b then 1 else 0)
  | .str _ => none

end Value

def Sign.symbol : Sign → String
  | .minus => "-"
  | .plus => "+"

def TypeFault.message : TypeFault → String
  | .incomparable left op right =>
    "cannot compare " ++ left.text ++ " " ++ op.symbol ++ " " ++ right.text
  | .notSubtractable left right => "cannot subtract " ++ right.text ++ " from " ++ left.text
  | .notNumbers op left right =>
    "'" ++ op.symbol ++ "' needs numbers, got " ++ left.text ++ " and " ++ right.text
  | .notSignable sign operand =>
    "bad operand for unary " ++ sign.symbol ++ ": " ++ operand.text

def Malformation.message : Malformation → String
  | .lexical e => e.message
  | .unexpected token => "unexpected " ++ token.describe
  | .endOfText => "unexpected end of expression"
  | .unclosed => "missing ')'"

/-- The order of two numbers, or of two texts by code points. Truth values count as numbers. -/
def Value.order? (a b : Value) : Option Ordering :=
  match a.number?, b.number?, a, b with
  | some x, some y, _, _ =>
    if x < y then some .lt else if x == y then some .eq else if y < x then some .gt else none
  | _, _, .str s, .str t =>
    some (if s < t then .lt else if s = t then .eq else .gt)
  | _, _, _, _ => none

/-- Values without an order are different. No other comparison of them holds or fails. -/
def Comparison.holds (op : Comparison) (a b : Value) : Except Failure Bool :=
  match op, a.order? b with
  | .equal, o => .ok (o == some .eq)
  | .different, o => .ok (o != some .eq)
  | op, none => .error (.illTyped (.incomparable a op b))
  | .less, some o => .ok (o == .lt)
  | .atMost, some o => .ok (o != .gt)
  | .greater, some o => .ok (o == .gt)
  | .atLeast, some o => .ok (o != .lt)

/-- An operation on numbers alone. Division and its remainder refuse a zero divisor. -/
def Arithmetic.compute (op : Arithmetic) (x y : Float) : Except Failure Float :=
  match op with
  | .power => .ok (x.pow y)
  | .times => .ok (x * y)
  | .plus => .ok (x + y)
  | .minus => .ok (x - y)
  | .quotient => if y == 0 then .error .divisionByZero else .ok (x / y)
  | .floorQuotient => if y == 0 then .error .divisionByZero else .ok (x / y).floor
  | .remainder => if y == 0 then .error .divisionByZero else .ok (x - y * (x / y).floor)

def Arithmetic.apply (op : Arithmetic) (a b : Value) : Except Failure Value :=
  match a.number?, b.number?, op with
  | some x, some y, op => (op.compute x y).map .num
  | _, _, .plus => .ok (.str (a.text ++ b.text))
  | _, _, .minus => .error (.illTyped (.notSubtractable a b))
  | _, _, op => .error (.illTyped (.notNumbers op a b))

/-- The operand that decides: `and` gives the second if the first is true, `or` the other way. -/
def Connective.choose (op : Connective) (a b : Value) : Value :=
  match op with
  | .and => if a.truthy then b else a
  | .or => if a.truthy then a else b

def Binary.apply (op : Binary) (a b : Value) : Except Failure Value :=
  match op with
  | .arithmetic op => op.apply a b
  | .connective op => .ok (op.choose a b)

def Sign.apply (sign : Sign) (a : Value) : Except Failure Value :=
  match a.number? with
  | none => .error (.illTyped (.notSignable sign a))
  | some x => .ok (.num (match sign with
    | .minus => -x
    | .plus => x))

end Showrunner.Expression
