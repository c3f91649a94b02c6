import Showrunner.Decimal.Reader
import Showrunner.Pattern.Spec
import Showrunner.Table

namespace Showrunner.Pattern

inductive Binding where
  | absent
  | text (s : String)
  | list (items : List String)
deriving DecidableEq, Repr

/-- What a line that fits the head of a pattern lacks in its tail. -/
inductive Mismatch where
  | missingValue (name : String)
  | missingWord (word : String)
  | wrongWord (word found : String)
  | wrongChoice (choices : List String) (found : String)
deriving DecidableEq, Repr

def Mismatch.message : Mismatch → String
  | .missingValue name => "expected a value for '" ++ name ++ "'"
  | .missingWord word => "expected the word '" ++ word ++ "'"
  | .wrongWord word found => "expected '" ++ word ++ "' but found '" ++ found ++ "'"
  | .wrongChoice choices found =>
    "expected one of " ++ Text.joinWith ", " choices ++ " but found '" ++ found ++ "'"

/-- A line read by a pattern: the words taken before the divider, what the names are bound to,
and the mismatches of the tail in order. -/
structure Match where
  headWords : List String
  bindings : Table Binding
  mismatches : List Mismatch

namespace Match

def text? (m : Match) (name : String) : Option String :=
  match m.bindings.get? name with
  | some (.text s) => some s
  | _ => none

def list (m : Match) (name : String) : List String :=
  match m.bindings.get? name with
  | some (.list items) => items
  | some (.text s) => [s]
  | _ => []

def number? (m : Match) (name : String) : Option Float := (m.text? name).bind Decimal.read?

def hasHeadWord (m : Match) (word : String) : Bool :=
  m.headWords.any (Text.sameIgnoringCase · word)

end Match

/-- The state between two tokens: the words not yet taken and what was found so far. A flag word
arms the token after it. -/
structure Progress where
  rest : List String
  inHead : Bool
  armed : Bool
  found : Match

namespace Progress

def start (words : List String) : Progress := ⟨words, true, false, ⟨[], .empty, []⟩⟩

def bind (p : Progress) (name : String) (b : Binding) : Progress :=
  { p with found.bindings := p.found.bindings.insert name b }

def note (p : Progress) (m : Mismatch) : Progress :=
  { p with found.mismatches := p.found.mismatches ++ [m] }

def advance (p : Progress) : Progress :=
  match p.rest with
  | [] => p
  | w :: ws =>
    { p with
      rest := ws
      found.headWords := if p.inHead then p.found.headWords ++ [w] else p.found.headWords }

def bindNext (p : Progress) (name : String) : Progress :=
  match p.rest with
  | [] => p.bind name .absent
  | w :: _ => p.advance.bind name (.text w)

def require (p : Progress) (name : String) : Progress :=
  if p.rest.isEmpty then (p.note (.missingValue name)).bindNext name else p.bindNext name

def literal (p : Progress) (same : String → String → Bool) (word : String) : Option Progress :=
  match p.rest with
  | [] => if p.inHead then none else some (p.note (.missingWord word))
  | w :: _ =>
    if same w word then some p.advance
    else if p.inHead then none
    else some (p.advance.note (.wrongWord word w))

def choice (p : Progress) (same : String → String → Bool) (name : String)
    (others : List String) : Option Progress :=
  match p.rest with
  | [] => if p.inHead then none else some (p.bind name .absent)
  | w :: _ =>
    match (name :: others).find? (same w) with
    | some c => some (p.advance.bind name (.text c))
    | none =>
      if p.inHead then none
      else some ((p.advance.note (.wrongChoice (name :: others) w)).bind name .absent)

def flag (p : Progress) (same : String → String → Bool) (word : String) : Progress :=
  match p.rest with
  | [] => p
  | w :: _ => if same w word then { p.advance with armed := true } else p

def number (p : Progress) (name : String) : Progress :=
  match p.rest with
  | [] => p.bind name .absent
  | w :: _ => if (Decimal.read? w).isSome then p.bindNext name else p.bind name .absent

def restText (p : Progress) (name : String) : Progress :=
  let s := Text.unwords p.rest
  p.bind name (if s.isEmpty then .absent else .text s)

def disarm (p : Progress) : Progress := { p with armed := false }

/-- One token. In the head a fixed word that does not fit ends the match. In the tail it is
noted, and the word is taken all the same. -/
def step (same : String → String → Bool) (p : Progress) : Token → Option Progress
  | .divider => some { p with inHead := false }
  | .required name => some (p.disarm.require name)
  | .optional name => some (p.disarm.bindNext name)
  | .literal word => p.disarm.literal same word
  | .choice name others => p.disarm.choice same name others
  | .flag word => some (p.disarm.flag same word)
  | .flagBound name => some (if p.armed then p.disarm.require name else p.bind name .absent)
  | .restText name => some (p.disarm.restText name)
  | .restList name => some (p.disarm.bind name (.list p.rest))
  | .number name => some (p.disarm.number name)

end Progress

/-- What a pattern makes of a line. -/
structure MatchResult extends Match where
  valid : Bool

namespace MatchResult

def invalid : MatchResult := ⟨⟨[], .empty, []⟩, false⟩

def match? (r : MatchResult) : Option Match := if r.valid then some r.toMatch else none

end MatchResult

namespace Spec

/-- Reads a line of words by a pattern. No pattern matches an empty line. -/
def matchLine (s : Spec) (words : List String) : MatchResult :=
  if words.isEmpty then .invalid
  else match s.tokens.foldlM (Progress.step s.same) (.start words) with
    | some p => ⟨p.found, true⟩
    | none => .invalid

def matchWords? (s : Spec) (words : List String) : Option Match := (s.matchLine words).match?

theorem matchWords?_eq (s : Spec) (words : List String) : s.matchWords? words =
    if words.isEmpty then none
    else (s.tokens.foldlM (Progress.step s.same) (.start words)).map (·.found) := by
  unfold matchWords? matchLine
  split
  · rfl
  · cases s.tokens.foldlM (Progress.step s.same) (.start words) <;> rfl

theorem isSome_matchWords? (s : Spec) (words : List String) :
    (s.matchWords? words).isSome = (s.matchLine words).valid := by
  unfold matchWords? MatchResult.match?
  cases (s.matchLine words).valid <;> rfl

end Spec
end Showrunner.Pattern
