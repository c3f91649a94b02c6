import Showrunner.Decimal.Reader
import Showrunner.Expression.Token
import Showrunner.Text.Character
import Showrunner.Text.Numeral
import Showrunner.Text.Split

namespace Showrunner.Expression

inductive LexError where
  | unterminatedString
  | badNumber (text : String)
  | unsupportedOperator (symbol : Char)
  | unexpectedCharacter (c : Char)
deriving DecidableEq, Repr

def LexError.message : LexError → String
  | .unterminatedString => "unterminated string"
  | .badNumber text => "bad number '" ++ text ++ "'"
  | .unsupportedOperator symbol => "unsupported operator '" ++ symbol.toString ++ "'"
  | .unexpectedCharacter c => "unexpected character '" ++ c.toString ++ "'"

def operator? : Char → List Char → Except LexError Operator
  | '*', '*' :: _ => .ok (.binary (.arithmetic .power))
  | '/', '/' :: _ => .ok (.binary (.arithmetic .floorQuotient))
  | '=', '=' :: _ => .ok (.comparison .equal)
  | '!', '=' :: _ => .ok (.comparison .different)
  | '<', '=' :: _ => .ok (.comparison .atMost)
  | '>', '=' :: _ => .ok (.comparison .atLeast)
  | '&', '&' :: _ => .ok (.binary (.connective .and))
  | '|', '|' :: _ => .ok (.binary (.connective .or))
  | '+', _ => .ok (.binary (.arithmetic .plus))
  | '-', _ => .ok (.binary (.arithmetic .minus))
  | '*', _ => .ok (.binary (.arithmetic .times))
  | '/', _ => .ok (.binary (.arithmetic .quotient))
  | '%', _ => .ok (.binary (.arithmetic .remainder))
  | '<', _ => .ok (.comparison .less)
  | '>', _ => .ok (.comparison .greater)
  | '!', _ => .ok .not
  | '=', _ => .error (.unsupportedOperator '=')
  | '&', _ => .error (.unsupportedOperator '&')
  | '|', _ => .error (.unsupportedOperator '|')
  | c, _ => .error (.unexpectedCharacter c)

def exponentPart : List Char → List Char
  | e :: s =>
    let (sign, ds) := match s with
      | '+' :: r => (['+'], r.takeWhile Char.isDigit)
      | '-' :: r => (['-'], r.takeWhile Char.isDigit)
      | r => ([], r.takeWhile Char.isDigit)
    if (e == 'e' || e == 'E') && !ds.isEmpty then e :: sign ++ ds else []
  | [] => []

def isNumeralChar (c : Char) : Bool := c.isDigit || c == '.'

def numeral (s : List Char) : List Char :=
  s.takeWhile isNumeralChar ++ exponentPart (s.dropWhile isNumeralChar)

def startsNumeral (c : Char) (s : List Char) : Bool :=
  c.isDigit || (c == '.' && match s with
    | d :: _ => d.isDigit
    | [] => false)

def startsWord (c : Char) : Bool := Text.isAlphanumeric c || c == '_'

def isWordChar (c : Char) : Bool := startsWord c || c == '.' || c == ':' || c == '?'

/-- The token that begins with a character, none for a blank, and the number of characters after
it that belong to the token. -/
def lexeme (c : Char) (s : List Char) : Except LexError (Option Token × Nat) :=
  if Text.isBlank c then .ok (none, 0)
  else if c == '(' then .ok (some .opening, 0)
  else if c == ')' then .ok (some .closing, 0)
  else if c == '"' || c == '\'' then
    match Text.splitFirst (· == c) s with
    | some (inner, _) => .ok (some (.str (.ofList inner)), inner.length + 1)
    | none => .error .unterminatedString
  else if startsNumeral c s then
    let text := numeral (c :: s)
    match Decimal.read? (.ofList text) with
    | some x => .ok (some (.num x), text.length - 1)
    | none => .error (.badNumber (.ofList text))
  else if startsWord c then
    let rest := s.takeWhile isWordChar
    .ok (some (.word (.ofList (c :: rest))), rest.length)
  else
    (operator? c s).map fun op => (some (.operator op), op.symbol.length - 1)

/-- The tokens of a text after its first `skip` characters. -/
def lexFrom : Nat → List Char → Except LexError (List Token)
  | _, [] => .ok []
  | skip + 1, _ :: s => lexFrom skip s
  | 0, c :: s =>
    match lexeme c s with
    | .error e => .error e
    | .ok (token?, width) => (lexFrom width s).map (token?.toList ++ ·)

def lex (text : String) : Except LexError (List Token) := lexFrom 0 text.toList

end Showrunner.Expression
