import Showrunner.Expression.Lexer
import Showrunner.Proofs.Decimal.Numeral
import Showrunner.Proofs.Text.Split

namespace Showrunner

def Text.points (runs : List (Nat × Nat)) : List Nat :=
  runs.flatMap fun run => List.range' run.1 (run.2 + 1 - run.1)

namespace Expression

structure Quotation where
  mark : Char
  inner : List Char
  mark_eq : mark = '"' ∨ mark = '\''
  inner_ne : ∀ c ∈ inner, c ≠ mark

structure Word where
  first : Char
  rest : List Char
  starts : startsWord first
  notDigit : first.isDigit = false
  goesOn : ∀ c ∈ rest, isWordChar c

def Word.chars (w : Word) : List Char := w.first :: w.rest

def Word.text (w : Word) : String := .ofList w.chars

inductive Lexeme where
  | number (n : Decimal.Numeral)
  | quoted (q : Quotation)
  | word (w : Word)
  | operator (op : Operator)
  | opening
  | closing

namespace Lexeme

def text : Lexeme → List Char
  | .number n => n.text
  | .quoted q => q.mark :: (q.inner ++ [q.mark])
  | .word w => w.chars
  | .operator op => op.symbol.toList
  | .opening => ['(']
  | .closing => [')']

def token : Lexeme → Token
  | .number n => .num n.value
  | .quoted q => .str (.ofList q.inner)
  | .word w => .word w.text
  | .operator op => .operator op
  | .opening => .opening
  | .closing => .closing

/-- The character might be taken for a part of the lexeme, if it came right after it. -/
def takes : Lexeme → Char → Bool
  | .number _, c => isNumeralChar c || c == 'e' || c == 'E'
  | .word _, c => isWordChar c
  | .operator (.binary (.arithmetic .times)), c => c == '*'
  | .operator (.binary (.arithmetic .quotient)), c => c == '/'
  | .operator (.comparison .less), c | .operator (.comparison .greater), c
  | .operator .not, c => c == '='
  | _, _ => false

end Lexeme

/-- Lexemes are written one after the other. Blanks may stand anywhere between them, and have to
where a lexeme would take in what follows. -/
inductive Written : List Lexeme → List Char → Prop
  | nil {blanks : List Char} (hb : ∀ c ∈ blanks, Text.isBlank c) : Written [] blanks
  | cons {l : Lexeme} {ls : List Lexeme} {blanks rest : List Char}
    (hb : ∀ c ∈ blanks, Text.isBlank c) (hl : ∀ c ∈ rest.head?, l.takes c = false)
    (h : Written ls rest) : Written (l :: ls) (blanks ++ l.text ++ rest)

section

open Decimal

end

def spaced : List Lexeme → List Char
  | [] => []
  | [l] => l.text
  | l :: ls => l.text ++ ' ' :: spaced ls

end Expression
end Showrunner
