import Showrunner.Proofs.Text.Small
import Showrunner.Proofs.Text.Words
import Showrunner.Proofs.Variables.Literal

/-!
Guards in terms of the words of a line. Main statement: `body?_words`.
-/

namespace Showrunner

namespace Text

theorem isBlank_toLower (c : Char) : isBlank c.toLower = isBlank c :=
  toLower_congr (by decide +kernel) c

def separator? (text : String) : Option Char :=
  ((trimStart text.toList).dropWhile (!isBlank ·)).head?

end Text

namespace Guard

open Text

variable {text w₀ w₁ w : String} {ws : List String} {s word rest : List Char}

def Opens (word : List Char) : Prop := word.map Char.toLower = ['i', 'f']

theorem sameIgnoringCase_iff_opens : sameIgnoringCase w "if" ↔ Opens w.toList := by
  have hi : lowerAscii "if" = .ofList ['i', 'f'] := by decide
  unfold sameIgnoringCase Opens
  rw [hi, beq_iff_eq, lowerAscii, String.ofList_inj]

theorem Opens.solid (h : Opens word) : Solid word := by
  intro c hc
  have hl : c.toLower ∈ ['i', 'f'] := h ▸ List.mem_map_of_mem hc
  have hboth : ['i', 'f'].all fun d => !isBlank d := by decide
  rw [← isBlank_toLower]
  simpa using List.all_eq_true.mp hboth _ hl

theorem Opens.ne_nil (h : Opens word) : word ≠ [] := by
  rintro rfl
  cases h

theorem guarded?_eq_some_iff :
    guarded? s = some rest ↔ ∃ word, Opens word ∧ s = word ++ ' ' :: rest := by
  constructor
  · intro h
    unfold guarded? at h
    split at h
    · next i f rest' =>
      split at h
      · next hif =>
        cases h
        exact ⟨[i, f], by simpa [Opens] using hif, rfl⟩
      · cases h
    · cases h
  · rintro ⟨word, hw, rfl⟩
    obtain ⟨i, tail, rfl, hi, ht⟩ := List.map_eq_cons_iff.mp hw
    obtain ⟨f, tail, rfl, hf, ht⟩ := List.map_eq_cons_iff.mp ht
    rw [List.map_eq_nil_iff.mp ht]
    simp [guarded?, hi, hf]

theorem guarded?_isSome_iff : (guarded? (trimStart text.toList)).isSome ↔
    Opens (firstWord text.toList) ∧ separator? text = some ' ' := by
  rw [Option.isSome_iff_exists]
  constructor
  · rintro ⟨rest, h⟩
    obtain ⟨word, hw, hs⟩ := guarded?_eq_some_iff.mp h
    have hb : isBlank ' ' := by decide
    have hall : ∀ c ∈ word, (!isBlank c) = true := fun c hc => by simp [hw.solid c hc]
    rw [firstWord, separator?, hs, List.takeWhile_append_of_pos hall,
      List.dropWhile_append_of_pos hall]
    simpa [hb] using hw
  · rintro ⟨hw, hs⟩
    obtain ⟨rest, hrest⟩ := List.head?_eq_some_iff.mp hs
    refine ⟨rest, guarded?_eq_some_iff.mpr ⟨_, hw, ?_⟩⟩
    rw [← hrest, firstWord, List.takeWhile_append_dropWhile]

/-- What a guard leaves of a line: the words behind a true condition, if there are any. -/
structure Guards (text condition : String) (guarded : List String) : Prop where
  isSome_iff : (body? text).isSome ↔ isTruthy condition ∧ guarded ≠ []
  words_eq : ∀ body, body? text = some body → words body = guarded

theorem guards_of_guarded (h : guarded? (trimStart text.toList) = some rest)
    (hw : words (.ofList rest) = w :: ws) : Guards text w ws := by
  unfold words at hw
  rw [String.toList_ofList] at hw
  obtain ⟨condition, guarded, hl, rfl, rfl⟩ := List.map_eq_cons_iff.mp hw
  obtain ⟨hc, hg⟩ := wordLists_eq_cons hl
  have hbody := body?_of_guarded h
  rw [hc] at hbody
  have hne : (afterWord rest).isEmpty = false ↔ guarded ≠ [] := by
    rw [← hg, ne_eq, wordLists_eq_nil_iff, afterWord, trimStart_trimStart,
      ← List.isEmpty_iff, Bool.not_eq_true]
  constructor
  · rw [hbody]
    cases isTruthy (.ofList condition) <;> cases he : (afterWord rest).isEmpty <;> simp_all
  · intro body hsome
    rw [hbody] at hsome
    split at hsome
    · cases hsome
      rw [words, String.toList_ofList, hg]
    · cases hsome

/-- A line is guarded if its first word is `if` in any case and a space ends that word. The blanks
between the other words do not matter. -/
theorem body?_words (h : words text = w₀ :: w₁ :: ws) :
    (sameIgnoringCase w₀ "if" → separator? text = some ' ' → Guards text w₁ ws) ∧
      (sameIgnoringCase w₀ "if" = false ∨ separator? text ≠ some ' ' → body? text = some text) := by
  obtain ⟨word, tail, hl, hw, ht⟩ := List.map_eq_cons_iff.mp h
  obtain ⟨hfirst, hafter⟩ := wordLists_eq_cons hl
  have ho : sameIgnoringCase w₀ "if" ↔ Opens (firstWord text.toList) := by
    rw [sameIgnoringCase_iff_opens, ← hw, String.toList_ofList, hfirst]
  constructor
  · intro hif hs
    obtain ⟨rest, hrest⟩ := Option.isSome_iff_exists.mp
      (guarded?_isSome_iff.mpr ⟨ho.mp hif, hs⟩)
    refine guards_of_guarded hrest ?_
    obtain ⟨opener, hopen, hs⟩ := guarded?_eq_some_iff.mp hrest
    have hb : isBlank ' ' := by decide
    rw [← wordLists_trimStart, hs, wordLists_append hopen.solid hopen.ne_nil hb] at hl
    rw [words, String.toList_ofList, (List.cons.inj hl).2, ht]
  · intro hne
    have hg : guarded? (trimStart text.toList) = none := by
      rw [← Option.not_isSome_iff_eq_none, guarded?_isSome_iff, ← ho]
      rintro ⟨hif, hs⟩
      rcases hne with hne | hne
      · rw [hif] at hne
        cases hne
      · exact hne hs
    unfold body?
    rw [hg]

theorem body?_words_wide :
    words " If \tyes\u3000echo  hi" = ["If", "yes", "echo", "hi"] ∧
      (body? " If \tyes\u3000echo  hi").isSome ∧
      (∀ body, body? " If \tyes\u3000echo  hi" = some body → words body = ["echo", "hi"]) ∧
      body? "as if nothing" = some "as if nothing" := by
  have hw : words " If \tyes\u3000echo  hi" = ["If", "yes", "echo", "hi"] := by decide +kernel
  have hplain : words "as if nothing" = ["as", "if", "nothing"] := by decide +kernel
  have hg := (body?_words hw).1 (by decide) (by decide +kernel)
  refine ⟨hw, hg.isSome_iff.mpr ⟨by decide +kernel, by decide⟩, hg.words_eq, ?_⟩
  exact (body?_words hplain).2 (.inl (by decide))

/-- A tab behind `if` hides the guard, so that its condition is not asked. -/
theorem body?_words_tab :
    words "if\tno echo hi" = ["if", "no", "echo", "hi"] ∧ isTruthy "no" = false ∧
      body? "if\tno echo hi" = some "if\tno echo hi" ∧
      ¬ Guards "if\tno echo hi" "no" ["echo", "hi"] := by
  have hno : isTruthy "no" = false := by decide +kernel
  have hbody : body? "if\tno echo hi" = some "if\tno echo hi" := by decide +kernel
  refine ⟨by decide +kernel, hno, hbody, fun h => ?_⟩
  have ht : isTruthy "no" := (h.isSome_iff.mp (by rw [hbody]; rfl)).1
  rw [hno] at ht
  cases ht

end Guard
end Showrunner
