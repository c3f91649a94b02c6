import Showrunner.Decimal.Binary
import Showrunner.Decimal.Reader
import Showrunner.Text.Character

namespace Showrunner.Formula

/-- Marks are operators and punctuation. `unit` is a pair of parentheses with nothing between. -/
inductive Token where
  | int (n : Int)
  | float (x : Float)
  | str (s : String)
  | unit
  | name (s : String)
  | mark (s : String)

def Token.endsOperand : Token → Bool
  | .int _ | .float _ | .str _ | .unit => true
  | .name s => s != "if"
  | .mark m => m == ")" || m == "\x7d"

def isNameStart (c : Char) : Bool := c.isAlpha || c == '_'

def isNameChar (c : Char) : Bool := c.isAlphanum || c == '_'

def longMarks : List String := ["**", "==", "!=", "<=", ">=", "&&", "||"]

def reservedMarks : List String := ["++", "--", "<-"]

def shortMarks : List Char :=
  ['+', '-', '*', '/', '%', '<', '>', '!', '=', '(', ')', '\x7b', '\x7d', ';']

def mark? (c : Char) (s : List Char) : Option Token :=
  let pair := String.ofList (c :: s.take 1)
  if pair == "()" then some .unit
  else if reservedMarks.contains pair then none
  else if longMarks.contains pair then some (.mark pair)
  else if shortMarks.contains c then some (.mark c.toString)
  else none

/-- The number of characters to the end of a remark inside `depth` further remarks. A remark that
is never closed goes on to the end. -/
def remarkLength : Nat → List Char → Nat
  | _, [] => 0
  | 0, '*' :: '/' :: _ => 2
  | depth + 1, '*' :: '/' :: s => remarkLength depth s + 2
  | depth, '/' :: '*' :: s => remarkLength (depth + 1) s + 2
  | depth, _ :: s => remarkLength depth s + 1

def escape? : Char → Option Char
  | 'n' => some '\n'
  | 't' => some '\t'
  | 'r' => some '\r'
  | '\\' => some '\\'
  | '"' => some '"'
  | _ => none

def taking (width : Nat) (c? : Option Char) (r : Option (List Char × Nat)) :
    Option (List Char × Nat) := do
  let c ← c?
  let (t, n) ← r
  return (c :: t, n + width)

/-- The text up to the closing quote of a literal, and the number of characters read with the
quote. A quote written twice stands for one. A line ends only behind a backslash, and the blanks
of the next line count only from the column of the opening quote on: `indent` of them may still be
left out. -/
def quotedText? (margin : Nat) : Nat → List Char → Option (List Char × Nat)
  | _, [] => none
  | _, '"' :: '"' :: s => taking 2 (some '"') (quotedText? margin 0 s)
  | _, '"' :: _ => some ([], 1)
  | _, '\n' :: _ => none
  | _, '\\' :: '\n' :: s => (quotedText? margin margin s).map fun (t, n) => (t, n + 2)
  | _, '\\' :: '\r' :: '\n' :: s => (quotedText? margin margin s).map fun (t, n) => (t, n + 3)
  | _, '\\' :: 'x' :: a :: b :: s =>
    taking 4 (Text.codePoint? [a, b]) (quotedText? margin 0 s)
  | _, '\\' :: 'u' :: a :: b :: c :: d :: s =>
    taking 6 (Text.codePoint? [a, b, c, d]) (quotedText? margin 0 s)
  | _, '\\' :: 'U' :: a :: b :: c :: d :: e :: f :: g :: h :: s =>
    taking 10 (Text.codePoint? [a, b, c, d, e, f, g, h]) (quotedText? margin 0 s)
  | _, '\\' :: c :: s => taking 2 (escape? c) (quotedText? margin 0 s)
  | 0, c :: s => taking 1 (some c) (quotedText? margin 0 s)
  | indent + 1, c :: s =>
    if Text.isBlank c then (quotedText? margin indent s).map fun (t, n) => (t, n + 1)
    else taking 1 (some c) (quotedText? margin 0 s)

def isNumeralChar (c : Char) : Bool := c.isDigit || c == '_'

/-- The point and the digits behind it. A point belongs to a numeral only with a digit behind it,
or with something that can be no name and no second point. -/
def fractionPart : List Char → List Char
  | '.' :: c :: s =>
    if c.isDigit then '.' :: (c :: s).takeWhile isNumeralChar
    else if c.isAlpha || c == '_' || c == '.' then []
    else ['.']
  | _ => []

def exponentPart : List Char → List Char
  | e :: c :: s =>
    if e.toLower != 'e' then []
    else if c.isDigit then e :: (c :: s).takeWhile isNumeralChar
    else if c == '+' || c == '-' then e :: c :: s.takeWhile isNumeralChar
    else []
  | _ => []

def base? : Char → Option Nat
  | 'x' | 'X' => some 16
  | 'o' | 'O' => some 8
  | 'b' | 'B' => some 2
  | _ => none

/-- The number that is spelled in another base than ten, and the length of its digits. It fills
64 bits, of which the first is the sign. -/
def basedNumber? (base : Nat) (s : List Char) : Option (Token × Nat) :=
  let span := s.takeWhile fun c => isNumeralChar c || (base == 16 && Text.isHexDigit c)
  let digits := span.filter (· != '_')
  let n := Text.natOfBase base digits
  if digits.isEmpty || !digits.all (Text.hexDigit · < base) || Decimal.twoTo 64 ≤ n then none
  else if Decimal.greatestInt < n then some (.int (n - Decimal.twoTo 64), span.length)
  else some (.int n, span.length)

/-- The decimal number at the start of a text, and its length. Whole numbers are integers as long
as they fit 64 bits with their sign. -/
def decimalNumber? (negative : Bool) (s : List Char) : Option (Token × Nat) :=
  let whole := s.takeWhile isNumeralChar
  let fraction := fractionPart (s.drop whole.length)
  let exponent := exponentPart (s.drop (whole.length + fraction.length))
  let text := (whole ++ fraction ++ exponent).filter (· != '_')
  let length := whole.length + fraction.length + exponent.length
  let magnitude : Int := Decimal.natOf (whole.filter (· != '_'))
  let n := if negative then -magnitude else magnitude
  if length == whole.length && Decimal.leastInt ≤ n && n ≤ Decimal.greatestInt then
    some (.int n, length)
  else (Decimal.unsigned? text).map fun x => (.float (if negative then -x else x), length)

def number? (negative : Bool) : List Char → Option (Token × Nat)
  | '0' :: c :: s =>
    match base? c with
    | some b => if negative then none else (basedNumber? b s).map fun (t, n) => (t, n + 2)
    | none => decimalNumber? negative ('0' :: c :: s)
  | s => decimalNumber? negative s

/-- The token that begins with a character, none for a blank or a remark, and the number of
characters after it that belong to the token. A minus sign belongs to the digits behind it if
`signed`. -/
def lexeme? (signed : Bool) (column : Nat) (c : Char) (s : List Char) :
    Option (Option Token × Nat) :=
  if Text.isBlank c then some (none, 0)
  else if c == '/' && s.head? == some '/' then some (none, (s.takeWhile (· != '\n')).length)
  else if c == '/' && s.head? == some '*' then some (none, remarkLength 0 s.tail + 1)
  else if c.isDigit then (number? false (c :: s)).map fun (t, n) => (some t, n - 1)
  else if c == '-' && signed && s.head?.any Char.isDigit then
    (number? true s).map fun (t, n) => (some t, n)
  else if c == '"' then
    (quotedText? column 0 s).map fun (r, n) => (some (.str (.ofList r)), n)
  else if isNameStart c then
    let rest := s.takeWhile isNameChar
    some (some (.name (.ofList (c :: rest))), rest.length)
  else (mark? c s).map fun t =>
    (some t, match t with
      | .mark m => m.length - 1
      | _ => 1)

def nextColumn (column : Nat) (c : Char) : Nat := if c == '\n' then 1 else column + 1

def lexFrom? (signed : Bool) (column : Nat) : Nat → List Char → Option (List Token)
  | _, [] => some []
  | skip + 1, c :: s => lexFrom? signed (nextColumn column c) skip s
  | 0, c :: s => do
    let (token?, width) ← lexeme? signed column c s
    match token? with
    | none => lexFrom? signed (nextColumn column c) width s
    | some t => return t :: (← lexFrom? (!t.endsOperand) (nextColumn column c) width s)

def lex? (text : String) : Option (List Token) := lexFrom? true 1 0 text.toList

end Showrunner.Formula
