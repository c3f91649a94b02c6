import Showrunner.Decimal.Notation
import Showrunner.Text.Character
import Showrunner.Text.Quoted

namespace Showrunner.Expression

inductive Arithmetic where
  | power
  | times
  | quotient
  | floorQuotient
  | remainder
  | plus
  | minus
deriving DecidableEq, Repr

inductive Connective where
  | and
  | or
deriving DecidableEq, Repr

inductive Binary where
  | arithmetic (op : Arithmetic)
  | connective (op : Connective)
deriving DecidableEq, Repr

inductive Comparison where
  | equal
  | different
  | less
  | atMost
  | greater
  | atLeast
deriving DecidableEq, Repr

inductive Operator where
  | binary (op : Binary)
  | comparison (op : Comparison)
  | not
deriving DecidableEq, Repr

def Arithmetic.symbol : Arithmetic → String
  | .power => "**"
  | .times => "*"
  | .quotient => "/"
  | .floorQuotient => "//"
  | .remainder => "%"
  | .plus => "+"
  | .minus => "-"

def Connective.symbol : Connective → String
  | .and => "&&"
  | .or => "||"

def Connective.keyword : Connective → String
  | .and => "and"
  | .or => "or"

def Binary.symbol : Binary → String
  | .arithmetic op => op.symbol
  | .connective op => op.symbol

def Comparison.symbol : Comparison → String
  | .equal => "=="
  | .different => "!="
  | .less => "<"
  | .atMost => "<="
  | .greater => ">"
  | .atLeast => ">="

def Operator.symbol : Operator → String
  | .binary op => op.symbol
  | .comparison op => op.symbol
  | .not => "!"

inductive Token where
  | num (x : Float)
  | str (s : String)
  | word (w : String)
  | operator (op : Operator)
  | opening
  | closing

namespace Token

def describe : Token → String
  | .num x => "Num(" ++ Decimal.pointed x ++ ")"
  | .str s => "Str(" ++ Text.quoted s ++ ")"
  | .word w => "Word(" ++ Text.quoted w ++ ")"
  | .operator op => "Op(" ++ Text.quoted op.symbol ++ ")"
  | .opening => "LParen"
  | .closing => "RParen"

def isKeyword (keyword : String) : Token → Bool
  | .word w => Text.sameIgnoringCase w keyword
  | _ => false

def isNot : Token → Bool
  | .operator .not => true
  | t => t.isKeyword "not"

/-- The operator between two values that a token stands for, with `and` and `or` as words too. -/
def binary? : Token → Option Binary
  | .operator (.binary op) => some op
  | t =>
    if t.isKeyword Connective.and.keyword then some (.connective .and)
    else if t.isKeyword Connective.or.keyword then some (.connective .or)
    else none

def comparison? : Token → Option Comparison
  | .operator (.comparison op) => some op
  | _ => none

end Token
end Showrunner.Expression
