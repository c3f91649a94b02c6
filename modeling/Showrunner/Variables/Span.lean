import Showrunner.Expression.Evaluator

namespace Showrunner.Span

/-- A stretch of text: a character that stands for itself, or an expression with the parentheses
around it. -/
inductive Segment where
  | char (c : Char)
  | span (text : List Char)
deriving DecidableEq, Repr

def isParenthesis (c : Char) : Bool := c == '(' || c == ')'

def place (c : Char) (opened : List Char) (depth : Nat)
    (rest : List Char → List Segment) : List Segment :=
  if depth = 0 then .char c :: rest opened else rest (opened ++ [c])

/-- The segments of a text inside `depth` open parentheses, of which `opened` is the text so far.
A backslash keeps a parenthesis from opening or closing. What is never closed stays text. -/
def segmentsFrom (opened : List Char) : Nat → List Char → List Segment
  | _, [] => opened.map .char
  | depth, c :: s =>
    match c, s with
    | '\\', p :: r =>
      if isParenthesis p then place p opened depth fun opened => segmentsFrom opened depth r
      else place '\\' opened depth fun opened => segmentsFrom opened depth (p :: r)
    | '(', s => segmentsFrom (opened ++ ['(']) (depth + 1) s
    | ')', s =>
      match depth with
      | 0 => .char ')' :: segmentsFrom opened 0 s
      | 1 => .span (opened ++ [')']) :: segmentsFrom [] 0 s
      | depth + 2 => segmentsFrom (opened ++ [')']) (depth + 1) s
    | c, s => place c opened depth fun opened => segmentsFrom opened depth s

def segments (text : String) : List Segment := segmentsFrom [] 0 text.toList

/-- The text of the segments with each expression replaced by its value. The values are asked for
from left to right, in any monad, so that an evaluator may fail or keep a record. -/
def fill {m : Type → Type} [Monad m] (evaluator : String → m String) : List Segment → m String
  | [] => pure ""
  | .char c :: r => (c.toString ++ ·) <$> fill evaluator r
  | .span text :: r => do
    let value ← evaluator (.ofList text)
    (value ++ ·) <$> fill evaluator r

def evaluate {m : Type → Type} [Monad m] (evaluator : String → m String) (text : String) :
    m String :=
  fill evaluator (segments text)

end Showrunner.Span
