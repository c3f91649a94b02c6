import Showrunner.Pattern.Spec

namespace Showrunner.Pattern

def Token.spelled (w : List Char) : Except SpecError Token :=
  if w = [':'] then .ok .divider
  else match Text.splitFirst (· == '/') w with
    | none | some ([], _) | some (_, []) => .error (.malformedToken (.ofList w))
    | some (marker, value) =>
      match marker with
      | ['+'] => .ok (.required (.ofList value))
      | ['?'] => .ok (.optional (.ofList value))
      | ['='] => .ok (.literal (.ofList value))
      | ['|'] =>
        let (name, others) := Text.pieces (· == '|') value
        .ok (.choice (.ofList name) (others.map .ofList))
      | ['~'] => .ok (.flag (.ofList value))
      | ['&'] => .ok (.flagBound (.ofList value))
      | ['*'] => .ok (.restText (.ofList value))
      | ['>'] => .ok (.restList (.ofList value))
      | ['#'] => .ok (.number (.ofList value))
      | _ => .error (.unknownMarker (.ofList marker) (.ofList w))

theorem Token.read_ofList (w : List Char) : read (.ofList w) = spelled w := by
  have hw : String.ofList w = ":" ↔ w = [':'] := String.ofList_inj
  generalize hr : read (.ofList w) = result
  unfold read at hr
  simp only [beq_iff_eq, hw, alternatives, Text.splitOn, String.toList_ofList] at hr
  exact hr.symm

def Spec.spelled (s : List Char) : Except SpecError (List Token) := do
  let ws := Text.wordLists s
  let tokens ← ws.mapM Token.spelled
  if tokens.all (· == .divider) then throw .empty
  match misplacedRest? ((ws.map .ofList).zip tokens) with
  | some w => throw (.restNotLast w)
  | none => return tokens

theorem mapM_ofList (ws : List (List Char)) :
    (ws.map String.ofList).mapM Token.read = ws.mapM Token.spelled := by
  induction ws with
  | nil => rfl
  | cons w ws ih => simp only [List.map_cons, List.mapM_cons, ih, Token.read_ofList]

/-- A pattern is read from its characters alone. -/
theorem Spec.read_eq (s : String) : read s = (spelled s.toList).map fun ts => ⟨ts, false, s⟩ := by
  unfold read spelled
  have hw : Text.words s = (Text.wordLists s.toList).map .ofList := rfl
  rw [hw]
  simp only [mapM_ofList]
  cases (Text.wordLists s.toList).mapM Token.spelled with
  | error e => rfl
  | ok ts =>
    dsimp only [bind, Except.bind]
    split
    · rfl
    · cases misplacedRest? (((Text.wordLists s.toList).map .ofList).zip ts) <;> rfl

end Showrunner.Pattern
