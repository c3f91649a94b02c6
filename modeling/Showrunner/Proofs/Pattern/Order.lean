import Showrunner.Pattern.Match

namespace Showrunner.Pattern

def Token.bound? : Token → Option String
  | .required name | .optional name | .choice name _ | .flagBound name | .restText name
  | .restList name | .number name => some name
  | .literal _ | .flag _ | .divider => none

/-- The pattern asks for a word named `first` before it binds `later`, and binds it once. -/
def asksFirst (first later : String) : List Token → Bool
  | [] => false
  | t :: ts =>
    if t = .required first then ts.all fun u => u.bound? != some first
    else t.bound? != some later && asksFirst first later ts

namespace Progress

variable {same : String → String → Bool} {p q : Progress} {t : Token} {name other : String}

theorem advance_bindings (p : Progress) : p.advance.found.bindings = p.found.bindings := by
  unfold advance
  split <;> rfl

theorem bind_get?_of_ne (p : Progress) (b : Binding) (h : some other ≠ some name) :
    (p.bind other b).found.bindings.get? name = p.found.bindings.get? name := by
  simp only [bind, Table.get?_insert]
  rw [if_neg fun he => h (by rw [he])]

theorem bindNext_get?_of_ne (p : Progress) (h : some other ≠ some name) :
    (p.bindNext other).found.bindings.get? name = p.found.bindings.get? name := by
  unfold bindNext
  split
  · exact bind_get?_of_ne p _ h
  · rw [bind_get?_of_ne _ _ h, advance_bindings]

theorem require_get?_of_ne (p : Progress) (h : some other ≠ some name) :
    (p.require other).found.bindings.get? name = p.found.bindings.get? name := by
  unfold require
  split <;> rw [bindNext_get?_of_ne _ h]
  rfl

theorem step_get?_of_ne (hs : p.step same t = some q) (hn : t.bound? ≠ some name) :
    q.found.bindings.get? name = p.found.bindings.get? name := by
  cases t with
  | divider => cases hs; rfl
  | required n => cases hs; exact require_get?_of_ne _ hn
  | optional n => cases hs; exact bindNext_get?_of_ne _ hn
  | literal w =>
    simp only [step, literal] at hs
    split at hs
    · split at hs <;> cases hs
      rfl
    · split at hs
      · cases hs
        exact congrArg (·.get? name) (advance_bindings _)
      · split at hs <;> cases hs
        exact congrArg (·.get? name) (advance_bindings _)
  | choice n others =>
    simp only [step, choice] at hs
    split at hs
    · split at hs <;> cases hs
      exact bind_get?_of_ne _ _ hn
    · split at hs
      · cases hs
        rw [bind_get?_of_ne _ _ hn]
        exact congrArg (·.get? name) (advance_bindings _)
      · split at hs <;> cases hs
        rw [bind_get?_of_ne _ _ hn]
        exact congrArg (·.get? name) (advance_bindings _)
  | flag w =>
    cases hs
    simp only [flag]
    split
    · rfl
    · split
      · exact congrArg (·.get? name) (advance_bindings _)
      · rfl
  | flagBound n =>
    cases hs
    split
    · exact require_get?_of_ne _ hn
    · exact bind_get?_of_ne _ _ hn
  | restText n => cases hs; exact bind_get?_of_ne _ _ hn
  | restList n => cases hs; exact bind_get?_of_ne _ _ hn
  | number n =>
    cases hs
    simp only [number]
    split
    · exact bind_get?_of_ne _ _ hn
    · split
      · exact bindNext_get?_of_ne _ hn
      · exact bind_get?_of_ne _ _ hn

theorem text?_restText (p : Progress) (name : String) :
    (p.restText name).found.text? name =
      if Text.unwords p.rest = "" then none else some (Text.unwords p.rest) := by
  have hb : (p.restText name).found.bindings.get? name =
      some (if (Text.unwords p.rest).isEmpty then .absent else .text (Text.unwords p.rest)) := by
    simp [restText, bind, Table.get?_insert]
  rw [Match.text?, hb]
  by_cases he : Text.unwords p.rest = ""
  · simp [he]
  · simp [he]

theorem getD_restText (p : Progress) (name : String) :
    ((p.restText name).found.text? name).getD "" = Text.unwords p.rest := by
  rw [text?_restText]
  split
  · next he => exact he.symm
  · rfl

/-- No words are left, and a name that is bound to no text yet stays so. -/
structure Spent (p : Progress) (name : String) : Prop where
  rest : p.rest = []
  text : ∀ s, p.found.bindings.get? name ≠ some (.text s)

theorem Spent.bind {b : Binding} (h : p.Spent name) (hb : ∀ s, b ≠ .text s) :
    (p.bind other b).Spent name := by
  refine ⟨h.rest, fun s => ?_⟩
  simp only [Progress.bind, Table.get?_insert]
  split
  · exact fun he => hb s (Option.some.inj he)
  · exact h.text s

theorem Spent.note (m : Mismatch) (h : p.Spent name) : (p.note m).Spent name := ⟨h.rest, h.text⟩

theorem Spent.bindNext (h : p.Spent name) : (p.bindNext other).Spent name := by
  simpa [Progress.bindNext, h.rest] using h.bind (b := .absent) (by simp)

theorem Spent.require (h : p.Spent name) : (p.require other).Spent name := by
  simpa [Progress.require, h.rest] using (h.note _).bindNext

theorem Spent.step (h : p.Spent name) (hs : p.step same t = some q) : q.Spent name := by
  have hd : p.disarm.Spent name := ⟨h.rest, h.text⟩
  have hr : p.disarm.rest = [] := h.rest
  cases t with
  | divider => cases hs; exact ⟨h.rest, h.text⟩
  | required n => cases hs; exact hd.require
  | optional n => cases hs; exact hd.bindNext
  | literal w =>
    simp only [Progress.step, literal, hr] at hs
    split at hs <;> cases hs
    exact hd.note _
  | choice n others =>
    simp only [Progress.step, choice, hr] at hs
    split at hs <;> cases hs
    exact hd.bind (by simp)
  | flag w =>
    simp only [Progress.step, flag, hr] at hs
    cases hs
    exact hd
  | flagBound n =>
    cases hs
    split
    · exact hd.require
    · exact h.bind (by simp)
  | restText n =>
    cases hs
    exact hd.bind fun s => by simp [hr, Text.unwords, Text.joinWith]
  | restList n => cases hs; exact hd.bind (by simp)
  | number n =>
    simp only [Progress.step, number, hr] at hs
    cases hs
    exact hd.bind (by simp)

theorem Spent.steps {ts : List Token} (h : p.Spent name)
    (hs : ts.foldlM (Progress.step same) p = some q) : q.Spent name := by
  induction ts generalizing p with
  | nil => cases hs; exact h
  | cons t ts ih =>
    obtain ⟨r, hr, hq⟩ := Option.bind_eq_some_iff.mp hs
    exact ih (h.step hr) hq

theorem steps_get?_of_ne {ts : List Token} (hs : ts.foldlM (step same) p = some q)
    (hn : ∀ t ∈ ts, t.bound? ≠ some name) :
    q.found.bindings.get? name = p.found.bindings.get? name := by
  induction ts generalizing p with
  | nil => cases hs; rfl
  | cons t ts ih =>
    obtain ⟨r, hr, hq⟩ := Option.bind_eq_some_iff.mp hs
    rw [ih hq fun u hu => hn u (List.mem_cons_of_mem _ hu),
      step_get?_of_ne hr (hn t List.mem_cons_self)]

theorem text_of_asksFirst {ts : List Token} {first later : String}
    (ha : asksFirst first later ts) (hs : ts.foldlM (step same) p = some q)
    (hp : ∀ s, p.found.bindings.get? later ≠ some (.text s)) {s : String}
    (hl : q.found.bindings.get? later = some (.text s)) :
    ∃ w, q.found.bindings.get? first = some (.text w) := by
  induction ts generalizing p with
  | nil => cases ha
  | cons t ts ih =>
    obtain ⟨r, hr, hq⟩ := Option.bind_eq_some_iff.mp hs
    unfold asksFirst at ha
    split at ha
    · next ht =>
      subst ht
      cases hr
      have hn : ∀ u ∈ ts, u.bound? ≠ some first := by simpa using ha
      rw [steps_get?_of_ne hq hn]
      cases hw : p.rest with
      | nil =>
        have hd : p.disarm.Spent later := ⟨hw, hp⟩
        exact absurd hl ((hd.require.steps hq).text s)
      | cons w ws =>
        have hd : p.disarm.rest = w :: ws := hw
        exact ⟨w, by simp [require, bindNext, hd, Progress.bind, Table.get?_insert]⟩
    · obtain ⟨hb, ha⟩ := Bool.and_eq_true_iff.mp ha
      refine ih ha hq fun s => ?_
      rw [step_get?_of_ne hr (by simpa using hb)]
      exact hp s

end Progress

/-- In a line that matches, a name asked for first is bound to a text if a later one is. -/
theorem text?_of_asksFirst {spec : Spec} {words : List String} {m : Match} {first later : String}
    (ha : asksFirst first later spec.tokens) (hm : spec.matchWords? words = some m)
    (hl : (m.text? later).isSome) : (m.text? first).isSome := by
  rw [Spec.matchWords?_eq] at hm
  split at hm
  · cases hm
  · obtain ⟨q, hq, rfl⟩ := Option.map_eq_some_iff.mp hm
    have ht : ∃ s, q.found.bindings.get? later = some (.text s) := by
      unfold Match.text? at hl
      split at hl
      · next s hs => exact ⟨s, hs⟩
      · cases hl
    obtain ⟨s, hs⟩ := ht
    obtain ⟨w, hw⟩ := Progress.text_of_asksFirst ha hq (fun _ h => by cases h) hs
    simp [Match.text?, hw]

end Showrunner.Pattern
