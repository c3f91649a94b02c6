import Showrunner.Proofs.Text.Small
import Showrunner.Proofs.Text.Words

namespace Showrunner.Text

variable {c d : Char} {before s : List Char}

/-- Case rules do not look through a blank, and it has no case itself. -/
theorem of_blank (h : isBlank c) :
    lowerChar c = [c] ∧ isCaseIgnorable c = false ∧ isCased c = false := by
  have hsmall : ∀ range ∈ blankRanges, ∀ n ∈ List.range' range.1 (range.2 + 1 - range.1),
      Small (.ofNat n) := by decide +kernel
  have hcased : ∀ range ∈ blankRanges, ∀ run ∈ casedRanges,
      run.2 < range.1 ∨ range.2 < run.1 := by decide +kernel
  have hignorable : ∀ range ∈ blankRanges, ∀ run ∈ caseIgnorableRanges,
      run.2 < range.1 ∨ range.2 < run.1 := by decide +kernel
  obtain ⟨range, hr, hin⟩ := List.any_eq_true.mp h
  simp only [Bool.and_eq_true, decide_eq_true_eq] at hin
  have hc := hsmall range hr c.toNat (List.mem_range'_1.mpr ⟨hin.1, by omega⟩)
  rw [Char.ofNat_toNat] at hc
  exact ⟨hc, not_covers (hignorable range hr) hin, not_covers (hcased range hr) hin⟩

theorem not_blank_of_mem (h : isBlank c = false) (hd : d ∈ lowerChar c) : isBlank d = false := by
  have hascii : ∀ n ∈ List.range 128,
      isBlank (Char.ofNat n) = false → isBlank (Char.ofNat n).toLower = false := by decide +kernel
  rcases lowerChar_cases c with ⟨hc, hl⟩ | ⟨rfl, hl⟩ | ⟨r, hr, n, hn, hl⟩ | hs
  · rw [hl, List.mem_singleton] at hd
    have hb := hascii c.toNat (List.mem_range.mpr hc)
    rw [Char.ofNat_toNat] at hb
    exact hd ▸ hb h
  · rw [hl] at hd
    have hboth : ['i', '\u0307'].all fun d => isBlank d = false := by decide
    exact of_decide_eq_true (List.all_eq_true.mp hboth d hd)
  · rw [hl, List.mem_singleton] at hd
    subst hd
    by_cases hv : n.isValidChar
    · have hn' : (Char.ofNat n).toNat = n := by
        rw [Char.ofNat, dif_pos hv]
        rfl
      unfold isBlank covers
      refine List.any_eq_false.mpr fun range hrange => ?_
      have hm := CapitalRun.misses_small (CapitalRun.misses_of_mem r hr range
        (List.mem_cons_of_mem _ (List.mem_cons_of_mem _ hrange))) hn
      rw [hn']
      simpa using hm
    · rw [Char.ofNat, dif_neg hv]
      decide
  · rw [hs, List.mem_singleton] at hd
    exact hd ▸ h

theorem meetsCased_cutWord (s : List Char) : meetsCased (cutWord s).1 = meetsCased s := by
  unfold meetsCased
  induction s with
  | nil => rfl
  | cons c s ih =>
    unfold cutWord
    cases hb : isBlank c with
    | true =>
      obtain ⟨-, hi, hc⟩ := of_blank hb
      simp [hi, hc]
    | false =>
      cases hi : isCaseIgnorable c with
      | true => simpa [hi] using ih
      | false => simp [hi]

theorem meetsCased_append_blank (hb : isBlank c) (s before : List Char) :
    meetsCased (s ++ c :: before) = meetsCased s := by
  obtain ⟨-, hi, hc⟩ := of_blank hb
  unfold meetsCased
  induction s with
  | nil => simp [hi, hc]
  | cons d s ih =>
    cases hd : isCaseIgnorable d with
    | true => simpa [hd] using ih
    | false => simp [hd]

theorem lowerFrom_append_blank (hb : isBlank c) (word before s : List Char) :
    lowerFrom (word ++ c :: before) s = lowerFrom word s := by
  induction s generalizing word with
  | nil => rfl
  | cons d s ih =>
    have hs := ih (d :: word)
    rw [List.cons_append] at hs
    rw [lowerFrom, lowerFrom, hs, lowerSigma, lowerSigma, meetsCased_append_blank hb]

theorem isEmpty_lowerFrom (before s : List Char) : (lowerFrom before s).isEmpty = s.isEmpty := by
  cases s with
  | nil => rfl
  | cons c s =>
    rw [lowerFrom]
    split
    · rfl
    · obtain ⟨d, ds, hl, -⟩ := exists_lowerChar c
      rw [hl]
      rfl

/-- Words are made small one by one. -/
theorem cutWord_lowerFrom (before s : List Char) :
    cutWord (lowerFrom before s) =
      (lowerFrom before (cutWord s).1, (cutWord s).2.map (lowerFrom [])) := by
  induction s generalizing before with
  | nil => rfl
  | cons c s ih =>
    cases hb : isBlank c with
    | true =>
      have hc : Small c := (of_blank hb).1
      have hl : lowerFrom before (c :: s) = c :: lowerFrom (c :: before) s := by
        rw [lowerFrom, hc.ne_sigma, show lowerChar c = [c] from hc]
        rfl
      have hw := lowerFrom_append_blank hb [] before (cutWord s).1
      rw [List.nil_append] at hw
      rw [hl, cutWord, cutWord, ih, hw, hb]
      simp only [if_true, isEmpty_lowerFrom, apply_ite (List.map (lowerFrom []))]
      rfl
    | false =>
      -- What a sigma becomes depends on the rest of its word alone.
      have hsigma : lowerSigma before (cutWord s).1 = lowerSigma before s := by
        rw [lowerSigma, lowerSigma, meetsCased_cutWord]
      have hsolid : Solid (if c == 'Σ' then [lowerSigma before s] else lowerChar c) := by
        intro d hd
        split at hd
        · rw [List.mem_singleton.mp hd]
          unfold lowerSigma
          split <;> decide
        · exact not_blank_of_mem hb hd
      have hw : cutWord (c :: s) = (c :: (cutWord s).1, (cutWord s).2) := by simp [cutWord, hb]
      rw [lowerFrom, cutWord_solid_append hsolid, ih, hw, lowerFrom, hsigma]

theorem words_lowercase (s : String) : words (lowercase s) = (words s).map lowercase := by
  have hc := cutWord_lowerFrom [] s.toList
  unfold words lowercase wordLists
  rw [String.toList_ofList, hc]
  dsimp only
  rw [isEmpty_lowerFrom]
  split <;> simp

theorem words_of_lowercase {s : String} {w : String} (h : w ∈ words (lowercase s)) :
    lowercase w = w := by
  rw [words_lowercase] at h
  obtain ⟨v, -, rfl⟩ := List.mem_map.mp h
  exact lowercase_lowercase v

end Showrunner.Text
