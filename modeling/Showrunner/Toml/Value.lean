import Showrunner.Decimal.Binary
import Showrunner.Decimal.Reader
import Showrunner.Text.Character

namespace Showrunner.Toml

open Text

inductive Value where
  | text (s : String)
  | integer (n : Int)
  | float (x : Float)
  | truth (b : Bool)
  | array (items : List Value)

/-- The digits of a numeral. Underscores may stand between two digits. -/
def digits? (isDigit : Char → Bool) : List Char → Option (List Char)
  | [] => none
  | [c] => if isDigit c then some [c] else none
  | c :: '_' :: s => if isDigit c then (digits? isDigit s).map (c :: ·) else none
  | c :: s => if isDigit c then (digits? isDigit s).map (c :: ·) else none

def wholeDigits? (s : List Char) : Option (List Char) :=
  (digits? Char.isDigit s).filter fun ds => ds.length == 1 || ds.head? != some '0'

def dropSign : List Char → List Char
  | '+' :: s | '-' :: s => s
  | s => s

def unboundedInteger? : List Char → Option Int
  | '0' :: 'x' :: s => (digits? isHexDigit s).map fun ds => natOfBase 16 ds
  | '0' :: 'o' :: s => (digits? (fun c => '0' ≤ c && c ≤ '7') s).map fun ds => natOfBase 8 ds
  | '0' :: 'b' :: s => (digits? (fun c => c == '0' || c == '1') s).map fun ds => natOfBase 2 ds
  | '-' :: s => (wholeDigits? s).map fun ds => -Decimal.natOf ds
  | s => (wholeDigits? (dropSign s)).map fun ds => Decimal.natOf ds

def integer? (s : List Char) : Option Int :=
  (unboundedInteger? s).filter fun n =>
    Decimal.leastInt ≤ n && n ≤ Decimal.greatestInt

def isFloatNumeral (s : List Char) : Bool :=
  let (mantissa, exponent) := s.span fun c => c.toLower != 'e'
  let (whole, fraction) := mantissa.span (· != '.')
  (wholeDigits? whole).isSome && !(fraction.isEmpty && exponent.isEmpty) &&
    (fraction.isEmpty || (digits? Char.isDigit fraction.tail).isSome) &&
    (exponent.isEmpty || (digits? Char.isDigit (dropSign exponent.tail)).isSome)

def float? (s : List Char) : Option Float :=
  let body := dropSign s
  if body == ['i', 'n', 'f'] || body == ['n', 'a', 'n'] then Decimal.read? (.ofList s)
  else if isFloatNumeral body then
    (Decimal.read? (.ofList (s.filter (· != '_')))).filter fun x => x != 1 / 0
  else none

def bare? (s : List Char) : Option Value :=
  if s == ['t', 'r', 'u', 'e'] then some (.truth true)
  else if s == ['f', 'a', 'l', 's', 'e'] then some (.truth false)
  else match integer? s with
    | some n => some (.integer n)
    | none => (float? s).map .float

def isTextChar (c : Char) : Bool := c == '\t' || (' ' ≤ c && c != '\x7f')

def escape? : Char → Option Char
  | 'b' => some '\x08'
  | 't' => some '\t'
  | 'n' => some '\n'
  | 'f' => some '\x0c'
  | 'r' => some '\r'
  | '"' => some '"'
  | '\\' => some '\\'
  | _ => none

def quoted? : List Char → Option (List Char × List Char)
  | [] => none
  | '"' :: s => some ([], s)
  | '\\' :: 'u' :: a :: b :: c :: d :: s => do
    let x ← codePoint? [a, b, c, d]
    let (t, rest) ← quoted? s
    return (x :: t, rest)
  | '\\' :: 'U' :: a :: b :: c :: d :: e :: f :: g :: h :: s => do
    let x ← codePoint? [a, b, c, d, e, f, g, h]
    let (t, rest) ← quoted? s
    return (x :: t, rest)
  | '\\' :: c :: s => do
    let x ← escape? c
    let (t, rest) ← quoted? s
    return (x :: t, rest)
  | c :: s => do
    if !isTextChar c || c == '\\' then none
    let (t, rest) ← quoted? s
    return (c :: t, rest)

def literal? : List Char → Option (List Char × List Char)
  | [] => none
  | '\'' :: s => some ([], s)
  | c :: s => if isTextChar c then (literal? s).map fun (t, rest) => (c :: t, rest) else none

def isBlank (c : Char) : Bool := c == ' ' || c == '\t'

def skip (s : List Char) : List Char := s.dropWhile isBlank

def isBareChar (c : Char) : Bool :=
  c.isAlphanum || c == '_' || c == '-' || c == '+' || c == '.'

/-- The items of an array after its bracket. A comma may stand after the last. -/
def items? (value? : List Char → Option (Value × List Char)) :
    Nat → List Char → Option (List Value × List Char)
  | 0, _ => none
  | fuel + 1, s =>
    match skip s with
    | ']' :: rest => some ([], rest)
    | s => do
      let (v, s) ← value? s
      match skip s with
      | ',' :: s =>
        let (vs, rest) ← items? value? fuel s
        return (v :: vs, rest)
      | ']' :: rest => return ([v], rest)
      | _ => none

/-- A value and what comes after it, for arrays nested no deeper than a depth. -/
def valueWithin? : Nat → List Char → Option (Value × List Char)
  | _, '"' :: s => (quoted? s).map fun (t, rest) => (.text (.ofList t), rest)
  | _, '\'' :: s => (literal? s).map fun (t, rest) => (.text (.ofList t), rest)
  | 0, '[' :: _ => none
  | depth + 1, '[' :: s =>
    (items? (valueWithin? depth) s.length s).map fun (vs, rest) => (.array vs, rest)
  | _, s =>
    let (word, rest) := s.span isBareChar
    (bare? word).map fun v => (v, rest)

/-- Arrays nested this deeply are refused, and so are keys of this many parts. -/
def depthLimit : Nat := 80

def value? (s : List Char) : Option (Value × List Char) := valueWithin? (depthLimit - 1) s

end Showrunner.Toml
