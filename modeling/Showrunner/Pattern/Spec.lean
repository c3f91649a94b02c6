import Showrunner.Pattern.Token
import Showrunner.Text.Character

namespace Showrunner.Pattern

/-- A compiled pattern and the text it was compiled from. -/
structure Spec where
  tokens : List Token
  ignoreCase : Bool
  source : String
deriving DecidableEq, Repr

def misplacedRest? : List (String × Token) → Option String
  | [] => none
  | (w, t) :: r =>
    if t.isRest then
      if r.all (·.2 == .divider) then none else some w
    else misplacedRest? r

namespace Spec

/-- Compiles a pattern. A bad token is reported before an empty pattern, and that before a token
for the rest of the line that is not last. -/
def read (source : String) : Except SpecError Spec := do
  let ws := Text.words source
  let tokens ← ws.mapM Token.read
  if tokens.all (· == .divider) then throw .empty
  match misplacedRest? (ws.zip tokens) with
  | some w => throw (.restNotLast w)
  | none => return ⟨tokens, false, source⟩

def caseInsensitive (s : Spec) : Spec := { s with ignoreCase := true }

def same (s : Spec) (a b : String) : Bool :=
  if s.ignoreCase then Text.sameIgnoringCase a b else a == b

end Spec
end Showrunner.Pattern
