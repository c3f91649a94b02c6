import Showrunner.Text.Combining
import Showrunner.Text.Printable

namespace Showrunner.Text

def escapeCode (c : Char) : List Char :=
  ['\\', 'u', '\x7b'] ++ Nat.toDigits 16 c.toNat ++ ['\x7d']

/-- Quotes, backslashes and the common controls have an escape of their own. Other characters
that cannot be seen on their own are written as their code point. -/
def escapeChar (c : Char) : List Char :=
  match c with
  | '"' => ['\\', '"']
  | '\\' => ['\\', '\\']
  | '\n' => ['\\', 'n']
  | '\t' => ['\\', 't']
  | '\r' => ['\\', 'r']
  | '\x00' => ['\\', '0']
  | c => if isExtender c || !isPrintable c then escapeCode c else [c]

def quoted (s : String) : String :=
  .ofList ('"' :: s.toList.flatMap escapeChar ++ ['"'])

end Showrunner.Text
