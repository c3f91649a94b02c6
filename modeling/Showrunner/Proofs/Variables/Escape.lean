import Showrunner.Proofs.Variables.Literal

namespace Showrunner

namespace Text

def escaped (p : Char → Bool) (text : List Char) : List Char :=
  text.flatMap fun c => if p c then ['\\', c] else [c]

variable {p : Char → Bool}

theorem escaped_cons (c : Char) (text : List Char) :
    escaped p (c :: text) = if p c then '\\' :: c :: escaped p text else c :: escaped p text := by
  unfold escaped
  rw [List.flatMap_cons]
  split <;> rfl

theorem escaped_append (text rest : List Char) :
    escaped p (text ++ rest) = escaped p text ++ escaped p rest := List.flatMap_append

theorem head?_escaped_ne {c : Char} (hc : p c) (hp : p '\\' = false) {text rest : List Char}
    (hr : text = [] → rest.head? ≠ some c) : (escaped p text ++ rest).head? ≠ some c := by
  cases text with
  | nil => exact hr rfl
  | cons d text =>
    intro h
    rw [escaped_cons] at h
    split at h
    · cases h
      rw [hp] at hc
      cases hc
    · next hd =>
      cases h
      exact hd hc

theorem head?_escaped (hp : p '\\' = false) (text : List Char) :
    ∀ c ∈ (escaped p text).head?, p c = false := by
  intro c hc
  by_contra h
  have hn : (escaped p text ++ []).head? ≠ some c :=
    head?_escaped_ne (by simpa using h) hp fun _ => nofun
  rw [List.append_nil] at hn
  exact hn hc

end Text

namespace Variables

def isSpecial (c : Char) : Bool := c == '$' || Span.isParenthesis c

/-- The text with a backslash before each character that is special. -/
def escape (text : String) : String := .ofList (Text.escaped isSpecial text.toList)

theorem piecesFrom_cons {c : Char} {rest : List Char} (hc : c ≠ '$')
    (hr : c = '\\' → rest.head? ≠ some '$') :
    piecesFrom 0 (c :: rest) = .char c :: piecesFrom 0 rest := by
  have he : (c == '\\' && rest.head? == some '$') = false := by simpa using hr
  rw [piecesFrom, he]
  simp [hc]

/-- Of the backslashes that escape a text, those before dollar signs are taken away, and no
reference is found in it. A text that ends in a backslash must not have a dollar sign behind it. -/
theorem piecesFrom_escaped {p : Char → Bool} (hd : p '$') (hb : p '\\' = false)
    (text rest : List Char) (hr : text.getLast? = some '\\' → rest.head? ≠ some '$') :
    piecesFrom 0 (Text.escaped p text ++ rest) =
      (Text.escaped (fun c => p c && c != '$') text).map .char ++ piecesFrom 0 rest := by
  induction text with
  | nil => rfl
  | cons c text ih =>
    have hi := ih fun h => hr (by simp [List.getLast?_cons, h])
    rw [Text.escaped_cons, Text.escaped_cons]
    by_cases hc : c = '$'
    · subst hc
      simpa [hd, piecesFrom] using hi
    · by_cases hp : p c
      · have hs : c ≠ '\\' := by
          rintro rfl
          rw [hb] at hp
          cases hp
        simp [hp, hc, hs, piecesFrom, hi]
      · -- An escaped text begins with no dollar sign, so a backslash in front of it is left alone.
        have hn : c = '\\' → (Text.escaped p text ++ rest).head? ≠ some '$' := fun hs =>
          Text.head?_escaped_ne hd hb fun ht => hr (by rw [ht, hs]; rfl)
        simp only [hp, Bool.false_and, Bool.false_eq_true, if_false]
        rw [List.cons_append, piecesFrom_cons hc hn, hi]
        rfl

theorem expand_escape (v : Variables) (text scene : String) (stage : Stage) (d : Dice) :
    v.expand (escape text) scene stage d =
      ⟨.ofList (Text.escaped Span.isParenthesis text.toList), [], d⟩ := by
  have hp : (fun c => isSpecial c && c != '$') = Span.isParenthesis := by
    funext c
    cases hc : c == '$' with
    | true =>
      obtain rfl := eq_of_beq hc
      rfl
    | false => simp [isSpecial, bne, hc]
  have hs := piecesFrom_escaped (p := isSpecial) rfl rfl text.toList [] fun _ => nofun
  have he := expandPieces_literal v scene stage d (Text.escaped Span.isParenthesis text.toList) []
  rw [List.append_nil, hp] at hs
  rw [expand, pieces, escape, String.toList_ofList, hs, piecesFrom, he]
  simp [expandPieces]

end Variables

namespace Span

def Segment.asked? : Segment → Option String
  | .char _ => none
  | .span text => some (.ofList text)

def asked (text : String) : List String := (segments text).filterMap Segment.asked?

theorem segmentsFrom_cons {c : Char} {rest : List Char} (hc : isParenthesis c = false)
    (hr : c = '\\' → ∀ d ∈ rest.head?, isParenthesis d = false) (opened : List Char)
    (depth : Nat) :
    segmentsFrom opened depth (c :: rest) =
      place c opened depth fun opened => segmentsFrom opened depth rest := by
  by_cases hb : c = '\\'
  · subst hb
    cases rest with
    | nil => rfl
    | cons d rest =>
      have hd : isParenthesis d = false := hr rfl d rfl
      simp [segmentsFrom, hd]
  · obtain ⟨ho, hs⟩ : c ≠ '(' ∧ c ≠ ')' := by
      simpa [isParenthesis] using hc
    rw [segmentsFrom]
    all_goals simp [hb, ho, hs]

theorem segmentsFrom_escaped (text : List Char) :
    segmentsFrom [] 0 (Text.escaped isParenthesis text) = text.map .char := by
  induction text with
  | nil => rfl
  | cons c text ih =>
    rw [Text.escaped_cons]
    split
    · next hc => simp [segmentsFrom, hc, place, ih]
    · next hc =>
      have hn := Text.head?_escaped (p := isParenthesis) rfl text
      rw [segmentsFrom_cons (Bool.eq_false_iff.mpr hc) fun _ => hn, place, if_pos rfl, ih]
      rfl

/-- With its parentheses escaped, a text holds no expression. -/
theorem segments_escaped (text : List Char) :
    segments (.ofList (Text.escaped isParenthesis text)) = text.map .char := by
  rw [segments, String.toList_ofList, segmentsFrom_escaped]

theorem asked_escaped (text : List Char) :
    asked (.ofList (Text.escaped isParenthesis text)) = [] := by
  simp [asked, segments_escaped, Segment.asked?]

theorem evaluate_escaped (evaluator : Evaluator) (text : List Char) :
    evaluate evaluator (.ofList (Text.escaped isParenthesis text)) = .ok (.ofList text) := by
  rw [evaluate, segments_escaped, fill_literal]

end Span

end Showrunner
