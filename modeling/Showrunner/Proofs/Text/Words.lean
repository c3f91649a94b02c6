import Showrunner.Proofs.Text.Split

namespace Showrunner.Text

variable {s word : List Char}

theorem wordLists_cons_blank {c : Char} (hc : isBlank c) (s : List Char) :
    wordLists (c :: s) = wordLists s := by
  simp [wordLists, cutWord, hc]

theorem wordLists_trimStart (s : List Char) : wordLists (trimStart s) = wordLists s := by
  induction s with
  | nil => rfl
  | cons c cs ih =>
    cases hc : isBlank c with
    | true =>
      rw [wordLists_cons_blank hc, ← ih]
      simp [trimStart, hc]
    | false => rw [trimStart_cons hc]

theorem cutWord_append_blanks {blanks : List Char} (hb : ∀ c ∈ blanks, isBlank c) :
    cutWord (s ++ blanks) = cutWord s := by
  induction s with
  | nil =>
    induction blanks with
    | nil => rfl
    | cons c cs ih =>
      have hc : isBlank c := hb c List.mem_cons_self
      have hcs : cutWord cs = ([], []) := ih fun d hd => hb d (List.mem_cons_of_mem _ hd)
      simp [cutWord, hc, hcs]
  | cons c cs ih => rw [List.cons_append, cutWord, ih, cutWord]

theorem wordLists_trimEnd (s : List Char) : wordLists (trimEnd s) = wordLists s := by
  have hs : s = trimEnd s ++ (s.reverse.takeWhile isBlank).reverse := by
    unfold trimEnd trimStart
    rw [← List.reverse_append, List.takeWhile_append_dropWhile, List.reverse_reverse]
  have hb : ∀ c ∈ (s.reverse.takeWhile isBlank).reverse, isBlank c := fun c hc =>
    List.mem_takeWhile_imp (List.mem_reverse.mp hc)
  have hcut := cutWord_append_blanks (s := trimEnd s) hb
  rw [← hs] at hcut
  unfold wordLists
  rw [hcut]

theorem words_trim (s : String) : words (trim s) = words s := by
  unfold words trim
  rw [String.toList_ofList, wordLists_trimEnd, wordLists_trimStart]

theorem cutWord_solid_append (hw : Solid word) (rest : List Char) :
    cutWord (word ++ rest) = (word ++ (cutWord rest).1, (cutWord rest).2) := by
  induction word with
  | nil => rfl
  | cons d ds ih =>
    have hd : isBlank d = false := hw d List.mem_cons_self
    simp [cutWord, hd, ih fun e he => hw e (List.mem_cons_of_mem _ he)]

theorem cutWord_append (hw : Solid word) {c : Char} (hc : isBlank c) (rest : List Char) :
    cutWord (word ++ c :: rest) = (word, wordLists rest) := by
  rw [cutWord_solid_append hw]
  simp [cutWord, hc, wordLists]

theorem wordLists_append (hw : Solid word) (hne : word ≠ []) {c : Char} (hc : isBlank c)
    (rest : List Char) : wordLists (word ++ c :: rest) = word :: wordLists rest := by
  rw [wordLists, cutWord_append hw hc]
  simp [hne]

theorem solid_cutWord (s : List Char) :
    Solid (cutWord s).1 ∧ ∀ w ∈ (cutWord s).2, Solid w ∧ w ≠ [] := by
  induction s with
  | nil => exact ⟨nofun, nofun⟩
  | cons c s ih =>
    obtain ⟨hfirst, hrest⟩ := ih
    rw [cutWord]
    cases hc : isBlank c with
    | true =>
      refine ⟨nofun, fun w hw => ?_⟩
      simp only [if_true] at hw
      split at hw
      · exact hrest w hw
      · next hne =>
        rcases List.mem_cons.mp hw with rfl | hw
        · exact ⟨hfirst, fun he => hne (by simp [he])⟩
        · exact hrest w hw
    | false => exact ⟨List.forall_mem_cons.mpr ⟨hc, hfirst⟩, hrest⟩

theorem solid_of_mem_words {s w : String} (h : w ∈ words s) : Solid w.toList ∧ w ≠ "" := by
  obtain ⟨hfirst, hrest⟩ := solid_cutWord s.toList
  obtain ⟨l, hl, rfl⟩ := List.mem_map.mp h
  have hsolid : Solid l ∧ l ≠ [] := by
    unfold wordLists at hl
    dsimp only at hl
    split at hl
    · exact hrest l hl
    · next hne =>
      rcases List.mem_cons.mp hl with rfl | hl
      · exact ⟨hfirst, fun he => hne (by simp [he])⟩
      · exact hrest l hl
  exact ⟨by simpa using hsolid.1, by simpa using hsolid.2⟩

theorem cutWord_eq (s : List Char) :
    cutWord s = (s.takeWhile (!isBlank ·), wordLists (s.dropWhile (!isBlank ·))) := by
  induction s with
  | nil => rfl
  | cons c s ih =>
    cases hc : isBlank c with
    | true => simp [cutWord, hc, wordLists]
    | false => simp [cutWord, hc, ih]

theorem trimStart_eq_nil_of_firstWord (h : firstWord s = []) : trimStart s = [] := by
  induction s with
  | nil => rfl
  | cons c s ih =>
    cases hc : isBlank c with
    | true =>
      have ht : trimStart (c :: s) = trimStart s := by simp [trimStart, hc]
      rw [ht]
      exact ih (by rwa [firstWord, ht] at h)
    | false =>
      rw [firstWord, trimStart_cons hc] at h
      simp [hc] at h

theorem wordLists_eq_nil_iff : wordLists s = [] ↔ trimStart s = [] := by
  constructor
  · intro h
    rw [← wordLists_trimStart, wordLists, cutWord_eq] at h
    dsimp only at h
    split at h
    · next he => exact trimStart_eq_nil_of_firstWord (List.isEmpty_iff.mp he)
    · cases h
  · intro h
    rw [← wordLists_trimStart, h]
    rfl

theorem wordLists_eq_cons {words : List (List Char)} (h : wordLists s = word :: words) :
    firstWord s = word ∧ wordLists (afterWord s) = words := by
  rw [← wordLists_trimStart, wordLists, cutWord_eq] at h
  dsimp only at h
  split at h
  · next he =>
    have ht := trimStart_eq_nil_of_firstWord (List.isEmpty_iff.mp he)
    rw [ht] at h
    cases h
  · obtain ⟨hw, hws⟩ := List.cons.inj h
    exact ⟨hw, by rw [afterWord, wordLists_trimStart, hws]⟩

theorem wordLists_solid (hw : Solid word) (hne : word ≠ []) : wordLists word = [word] := by
  have hcut := cutWord_solid_append hw []
  rw [List.append_nil] at hcut
  simp [wordLists, hcut, cutWord, hne]

theorem words_unwords {ws : List String} (h : ∀ w ∈ ws, Solid w.toList ∧ w ≠ "") :
    words (unwords ws) = ws := by
  have hspace : isBlank ' ' := by decide
  induction ws with
  | nil => rfl
  | cons w ws ih =>
    obtain ⟨⟨hw, hne⟩, hws⟩ := List.forall_mem_cons.mp h
    have hne : w.toList ≠ [] := by simpa using hne
    cases ws with
    | nil => simp [words, unwords, joinWith, wordLists_solid hw hne]
    | cons v ws =>
      have ih := ih hws
      rw [words, unwords] at ih ⊢
      have hspaces : (joinWith " " (w :: v :: ws)).toList =
          w.toList ++ ' ' :: (joinWith " " (v :: ws)).toList := by simp [joinWith]
      rw [hspaces, wordLists_append hw hne hspace, List.map_cons, ih, String.ofList_toList]

end Showrunner.Text
