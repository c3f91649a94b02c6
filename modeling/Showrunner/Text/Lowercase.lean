import Showrunner.Text.CaseTable
import Showrunner.Text.Cased

namespace Showrunner.Text

def CapitalRun.small? (r : CapitalRun) (n : Nat) : Option Nat :=
  if r.first ≤ n && n ≤ r.last && (n - r.first) % r.step == 0 then
    some (r.small + (n - r.first))
  else none

/-- The small form of a character. A capital I with a dot keeps its dot as a mark. -/
def lowerChar (c : Char) : List Char :=
  if c.toNat < 128 then [c.toLower]
  else if c == '\u0130' then ['i', '\u0307']
  else match capitalRuns.findSome? (·.small? c.toNat) with
    | some n => [.ofNat n]
    | none => [c]

/-- The nearest character that case rules do not look through is cased. -/
def meetsCased (s : List Char) : Bool :=
  match s.dropWhile isCaseIgnorable with
  | [] => false
  | c :: _ => isCased c

/-- A capital sigma takes its final form after a cased character when none follows. -/
def lowerSigma (before after : List Char) : Char :=
  if meetsCased before && !meetsCased after then 'ς' else 'σ'

def lowerFrom (before : List Char) : List Char → List Char
  | [] => []
  | c :: s =>
    (if c == 'Σ' then [lowerSigma before s] else lowerChar c) ++ lowerFrom (c :: before) s

def lowercase (s : String) : String := .ofList (lowerFrom [] s.toList)

end Showrunner.Text
