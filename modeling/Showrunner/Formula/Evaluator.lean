import Showrunner.Expression.Evaluator
import Showrunner.Formula.Tree

namespace Showrunner.Formula

/-- Joining a text with something that is no text cannot be done before a formula is run. -/
def canSettle (op : String) : Value → Value → Bool
  | .str _, .str _ => true
  | .str _, _ | _, .str _ => op != "+"
  | _, _ => true

def settledBinary (op : String) : Tree → Tree → Tree
  | .literal a, .literal b =>
    match if canSettle op a b then binary? op a b else none with
    | some v => .literal v
    | none => .binary op (.literal a) (.literal b)
  | l, r => .binary op l r

def Tree.isLiteral : Tree → Bool
  | .literal _ => true
  | _ => false

def Tree.isTruth (b : Bool) : Tree → Bool
  | .literal (.bool c) => b == c
  | _ => false

def Tree.conjuncts : Tree → List Tree
  | .and l r => l.conjuncts ++ r.conjuncts
  | e => [e]

def Tree.disjuncts : Tree → List Tree
  | .or l r => l.disjuncts ++ r.disjuncts
  | e => [e]

/-- The sides of a connective that is decided by `!neutral`. Sides that are literally neutral go,
and a single side that is left stands for itself, whatever it gives. Nothing behind a deciding
literal counts, and if only literals stand before it, it decides alone. -/
def settledSides (neutral : Bool) (join : Tree → Tree → Tree) (sides : List Tree) : Tree :=
  let kept := sides.filter fun e => !e.isTruth neutral
  let (before, decided) := kept.span fun e => !e.isTruth !neutral
  let left := if decided.isEmpty then before
    else (if before.all Tree.isLiteral then [] else before) ++ [.literal (.bool !neutral)]
  match left with
  | [] => .literal (.bool neutral)
  | e :: r => r.foldl join e

def Tree.settled : Tree → Tree
  | .literal v => .literal v
  | .name s => .name s
  | .positive e => .positive e.settled
  | .negative e => .negative e.settled
  | .not e => .not e.settled
  | .binary op l r => settledBinary op l.settled r.settled
  | .and l r => settledSides true .and (l.settled.conjuncts ++ r.settled.conjuncts)
  | .or l r => settledSides false .or (l.settled.disjuncts ++ r.settled.disjuncts)
  | .choice c yes no => .choice c.settled yes.settled no.settled

def lookup? (names : List (String × Value)) (s : String) : Option Value := names.lookup s

def Value.truth? : Value → Option Value
  | .bool b => some (.bool b)
  | _ => none

def Tree.value? (names : List (String × Value)) : Tree → Option Value
  | .literal v => some v
  | .name s => lookup? names s
  | .positive e =>
    match e.value? names with
    | some (.int n) => some (.int n)
    | some (.float x) => some (.float x)
    | _ => none
  | .negative e =>
    match e.value? names with
    | some (.int n) => checked? (-n)
    | some (.float x) => some (.float (-x))
    | _ => none
  | .not e =>
    match e.value? names with
    | some (.bool b) => some (.bool !b)
    | _ => none
  | .binary op l r => do
    let a ← l.value? names
    let b ← r.value? names
    binary? op a b
  | .and l r =>
    match l.value? names with
    | some (.bool true) => (r.value? names).bind Value.truth?
    | some (.bool false) => some (.bool false)
    | _ => none
  | .or l r =>
    match l.value? names with
    | some (.bool true) => some (.bool true)
    | some (.bool false) => (r.value? names).bind Value.truth?
    | _ => none
  | .choice c yes no =>
    match c.value? names with
    | some (.bool true) => yes.value? names
    | some (.bool false) => no.value? names
    | _ => none

/-- The value of the last statement. A statement that names its value has none itself. -/
def run? (names : List (String × Value)) (last : Value) : List Statement → Option Value
  | [] => some last
  | ⟨some s, e⟩ :: r => do
    let v ← e.settled.value? names
    run? ((s, v) :: names) .unit r
  | ⟨none, e⟩ :: r => do
    let v ← e.settled.value? names
    run? names v r

/-- The unrestricted language: integers with overflow checks, floats, texts and truth values,
named values and choices. -/
def evaluate : Evaluator := fun text =>
  match lex? text with
  | none => .error (.formula text "the text cannot be read")
  | some ts =>
    match statements? ts.length ts with
    | none => .error (.formula text "the formula is malformed")
    | some body =>
      match run? [] .unit body with
      | none => .error (.formula text "the formula has no value")
      | some v => .ok v.text

end Showrunner.Formula
