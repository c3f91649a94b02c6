import Showrunner.Formula.Token
import Showrunner.Formula.Value

namespace Showrunner.Formula

inductive Tree where
  | literal (v : Value)
  | name (s : String)
  | positive (operand : Tree)
  | negative (operand : Tree)
  | not (operand : Tree)
  | binary (op : String) (left right : Tree)
  | and (left right : Tree)
  | or (left right : Tree)
  | choice (condition yes no : Tree)

structure Statement where
  name? : Option String
  body : Tree

def strength? : String → Option Nat
  | "||" => some 1
  | "&&" => some 2
  | "==" | "!=" => some 3
  | "<" | "<=" | ">" | ">=" => some 4
  | "+" | "-" => some 5
  | "*" | "/" | "%" => some 6
  | "**" => some 7
  | _ => none

/-- The operator at the front of a text, if it takes an operand from one of a strength. Powers are
grouped from the right. -/
def binding? (least : Nat) : List Token → Option (String × Nat × List Token)
  | .mark op :: r =>
    match strength? op with
    | some s => if least < s || (least == s && op == "**") then some (op, s, r) else none
    | none => none
  | _ => none

def Tree.canDecide : Tree → Bool
  | .literal (.bool _) => true
  | .literal _ => false
  | _ => true

def joined? (op : String) (left right : Tree) : Option Tree :=
  match op with
  | "&&" => if left.canDecide && right.canDecide then some (.and left right) else none
  | "||" => if left.canDecide && right.canDecide then some (.or left right) else none
  | op => some (.binary op left right)

/-- A sign before a numeral belongs to it. The one integer that has no opposite becomes a float. -/
def negated : Tree → Tree
  | .literal (.int n) => .literal ((checked? (-n)).getD (.float (-.ofInt n)))
  | .literal (.float x) => .literal (.float (-x))
  | e => .negative e

def unsigned : Tree → Tree
  | .literal (.int n) => .literal (.int n)
  | .literal (.float x) => .literal (.float x)
  | e => .positive e

abbrev Reading := Option (Tree × List Token)

def whole (operand : List Token → Reading) (further : Tree → List Token → Reading)
    (ts : List Token) : Reading := do
  let (left, r) ← operand ts
  further left r

def upTo (close : String) (expression : List Token → Reading) (ts : List Token) : Reading := do
  match ← expression ts with
  | (e, .mark m :: r) => if m == close then some (e, r) else none
  | _ => none

def block (expression : List Token → Reading) : List Token → Reading
  | .mark "\x7b" :: .mark "\x7d" :: r => some (.literal .unit, r)
  | .mark "\x7b" :: r => do
    match ← expression r with
    | (e, .mark ";" :: .mark "\x7d" :: s) | (e, .mark "\x7d" :: s) => some (e, s)
    | _ => none
  | _ => none

def chosen (condition inner : List Token → Reading) (again : List Token → Reading)
    (ts : List Token) : Reading := do
  let (c, r) ← condition ts
  let (yes, s) ← block inner r
  if !c.canDecide then none
  match s with
  | .name "else" :: .name "if" :: u => do
    let (no, v) ← again u
    return (.choice c yes no, v)
  | .name "else" :: u => do
    let (no, v) ← block inner u
    return (.choice c yes no, v)
  | u => return (.choice c yes (.literal .unit), u)

mutual

/-- Reads one operand. The first argument is one more than the number of levels that may still be
entered: a sign enters one, parentheses and the condition of a choice two, a block four. -/
def operand? : Nat → List Token → Reading
  | 0, _ => none
  | n + 1, ts =>
    match ts with
    | .int k :: r => some (.literal (.int k), r)
    | .float x :: r => some (.literal (.float x), r)
    | .str s :: r => some (.literal (.str s), r)
    | .unit :: r => some (.literal .unit, r)
    | .mark "-" :: r => (operand? n r).map fun (e, s) => (negated e, s)
    | .mark "+" :: r => (operand? n r).map fun (e, s) => (unsigned e, s)
    | .mark "!" :: r => (operand? n r).map fun (e, s) => (.not e, s)
    | .mark "(" :: r =>
      match n with
      | 0 => none
      | m + 1 => upTo ")" (whole (operand? m) (further? (m + 1) 0)) r
    | .name "if" :: r =>
      match n with
      | m + 3 =>
        chosen (whole (operand? (m + 2)) (further? (m + 3) 0))
          (whole (operand? m) (further? (m + 1) 0)) (fun u => operand? (m + 3) (.name "if" :: u)) r
      | _ => none
    | .name "true" :: r => some (.literal (.bool true), r)
    | .name "false" :: r => some (.literal (.bool false), r)
    | .name s :: r => some (.name s, r)
    | _ => none

/-- Joins operands to the left one as long as the operators bind more tightly than `least`. Each
operator enters a level, and the first argument is two more than what may still be entered. -/
def further? : Nat → Nat → Tree → List Token → Reading
  | n + 2, least, left, ts =>
    match binding? least ts with
    | none => some (left, ts)
    | some (op, strength, r) => do
      let (first, s) ← operand? (n + 1) r
      let (right, u) ← if (binding? strength s).isSome then further? (n + 1) strength first s
        else some (first, s)
      further? (n + 1) least (← joined? op left right) u
  | _, _, _, _ => none

end

def levelLimit : Nat := 32

def expression? (ts : List Token) : Reading :=
  whole (operand? (levelLimit - 1)) (further? levelLimit 0) ts

def keywords : List String :=
  ["true", "false", "let", "const", "if", "else", "switch", "do", "while", "until", "loop", "for",
    "in", "continue", "break", "return", "throw", "try", "catch", "fn", "private", "import",
    "export", "as", "this", "var", "static", "is", "goto", "exit", "match", "case", "public",
    "protected", "new", "use", "with", "module", "package", "super", "thread", "spawn", "go",
    "await", "async", "sync", "yield", "default", "void", "null", "nil", "print", "debug",
    "type_of", "eval", "Fn", "call", "curry", "is_def_var", "is_def_fn", "is_shared"]

def canName (s : String) : Bool := s.toList.any Char.isAlpha && !keywords.contains s

/-- Reads a statement and tells whether a semicolon has to stand behind it. A choice that begins a
statement is all of it. -/
def statement? : List Token → Option (Statement × Bool × List Token)
  | .name "let" :: .name s :: .mark "=" :: r =>
    if canName s then (expression? r).map fun (e, u) => (⟨some s, e⟩, true, u) else none
  | .name "if" :: r =>
    (operand? (levelLimit + 1) (.name "if" :: r)).map fun (e, u) => (⟨none, e⟩, false, u)
  | ts => (expression? ts).map fun (e, u) => (⟨none, e⟩, true, u)

def statements? : Nat → List Token → Option (List Statement)
  | _, [] => some []
  | 0, _ => none
  | n + 1, .mark ";" :: r => statements? n r
  | n + 1, ts => do
    let (s, needsMark, r) ← statement? ts
    match r with
    | [] => return [s]
    | .mark ";" :: u => return s :: (← statements? n u)
    | u => if needsMark then none else return s :: (← statements? n u)

end Showrunner.Formula
