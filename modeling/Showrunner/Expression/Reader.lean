import Showrunner.Expression.Tree

namespace Showrunner.Expression

/-- What may stand at a place, from the loosest binding to the tightest. -/
inductive Level where
  | disjunction
  | conjunction
  | negation
  | comparison
  | sum
  | product
  | sign
  | power
  | atom
deriving DecidableEq, Repr

def Binary.level : Binary → Level
  | .connective .or => .disjunction
  | .connective .and => .conjunction
  | .arithmetic .plus | .arithmetic .minus => .sum
  | .arithmetic .power => .power
  | .arithmetic _ => .product

def Level.tighter : Level → Level
  | .disjunction => .conjunction
  | .conjunction => .negation
  | .negation => .comparison
  | .comparison => .sum
  | .sum => .product
  | .product => .sign
  | .sign => .power
  | .power | .atom => .atom

def Token.leftOperator? (level : Level) (t : Token) : Option Binary :=
  t.binary?.filter fun op => op.level == level && level != .power

def Token.sign? : Token → Option Sign
  | .operator (.binary (.arithmetic .minus)) => some .minus
  | .operator (.binary (.arithmetic .plus)) => some .plus
  | _ => none

def wordValue (w : String) : Value :=
  let name := Text.lowerAscii w
  if name == "true" then .bool true
  else if name == "false" then .bool false
  else .str w

def chainOf (first : Tree) : Links → Tree
  | .nil => first
  | .cons op second rest => .chain first op second rest

mutual

/-- Reads an expression of a level from the front of a list of tokens and returns what is left.
Nothing is left after a fault. The first argument bounds the depth of the recursion. -/
def operand : Nat → Level → List Token → Tree × List Token
  | 0, _, _ => (.fault .endOfText, [])
  | n + 1, .negation, ts =>
    match ts with
    | t :: r =>
      if t.isNot then
        let (e, s) := operand n .negation r
        (.not e, s)
      else operand n .comparison ts
    | [] => operand n .comparison ts
  | n + 1, .comparison, ts =>
    let (first, r) := operand n .sum ts
    let (ls, s) := links n r
    (chainOf first ls, s)
  | n + 1, .sign, ts =>
    match ts with
    | t :: r =>
      match t.sign? with
      | some sign =>
        let (e, s) := operand n .sign r
        (.signed sign e, s)
      | none => operand n .power ts
    | [] => operand n .power ts
  | n + 1, .power, ts =>
    match operand n .atom ts with
    | (base, .operator (.binary (.arithmetic .power)) :: r) =>
      let (e, s) := operand n .sign r
      (.binary (.arithmetic .power) base e, s)
    | result => result
  | n + 1, .atom, ts =>
    match ts with
    | .num x :: r => (.literal (.num x), r)
    | .str s :: r => (.literal (.str s), r)
    | .word w :: r => (.literal (wordValue w), r)
    | .opening :: r =>
      match operand n .disjunction r with
      | (e, .closing :: s) => (e, s)
      | (e, _) => (.unclosed e, [])
    | t :: _ => (.fault (.unexpected t), [])
    | [] => (.fault .endOfText, [])
  | n + 1, level, ts =>
    let (first, r) := operand n level.tighter ts
    further n level first r

def further : Nat → Level → Tree → List Token → Tree × List Token
  | n + 1, level, left, t :: r =>
    match t.leftOperator? level with
    | some op =>
      let (right, s) := operand n level.tighter r
      further n level (.binary op left right) s
    | none => (left, t :: r)
  | _, _, left, ts => (left, ts)

def links : Nat → List Token → Links × List Token
  | n + 1, t :: r =>
    match t.comparison? with
    | some op =>
      let (e, s) := operand n .sum r
      let (ls, u) := links n s
      (.cons op e ls, u)
    | none => (.nil, t :: r)
  | _, ts => (.nil, ts)

end

/-- A bound that no reading of these tokens reaches: between two tokens taken, each level is
entered at most once. -/
def depthBound (ts : List Token) : Nat := 10 * (ts.length + 1)

def readTree (ts : List Token) : Tree × Option Token :=
  let (e, rest) := operand (depthBound ts) .disjunction ts
  (e, rest.head?)

end Showrunner.Expression
