import Showrunner.Expression.Value

namespace Showrunner.Expression

mutual

/-- An expression as it is read. A text that stops making sense gives a tree with a fault at the
place where reading ended. -/
inductive Tree where
  | literal (v : Value)
  | signed (sign : Sign) (operand : Tree)
  | not (operand : Tree)
  | binary (op : Binary) (left right : Tree)
  | chain (first : Tree) (op : Comparison) (second : Tree) (rest : Links)
  | fault (reason : Malformation)
  | unclosed (inner : Tree)

inductive Links where
  | nil
  | cons (op : Comparison) (operand : Tree) (rest : Links)

end

mutual

/-- Evaluates from left to right, both operands of every operator, up to the first failure. -/
def Tree.eval : Tree → Except Failure Value
  | .literal v => .ok v
  | .signed sign e => do sign.apply (← e.eval)
  | .not e => do return .bool !(← e.eval).truthy
  | .binary op l r => do
    let a ← l.eval
    let b ← r.eval
    op.apply a b
  | .chain first op second rest => do
    let a ← first.eval
    let b ← second.eval
    let verdict ← op.holds a b
    return .bool (← rest.eval b verdict)
  | .fault reason => .error (.malformed reason)
  | .unclosed inner => do
    let _ ← inner.eval
    .error (.malformed .unclosed)

def Links.eval (left : Value) (verdict : Bool) : Links → Except Failure Bool
  | .nil => .ok verdict
  | .cons op operand rest => do
    let b ← operand.eval
    let holds ← op.holds left b
    rest.eval b (verdict && holds)

end

end Showrunner.Expression
