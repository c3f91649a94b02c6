import Showrunner.Proofs.Text.Lowercase
import Showrunner.Text.Character

namespace Showrunner.Text

def Small (c : Char) : Prop := lowerChar c = [c]

instance (c : Char) : Decidable (Small c) := inferInstanceAs (Decidable (_ = _))

namespace CapitalRun

/-- The small letters of a run are no capitals of another: they lie outside it, or between its
capitals. -/
def apart (r q : CapitalRun) : Bool :=
  (r.small + (r.last - r.first)).blt q.first || q.last.blt r.small ||
    q.step == 2 && (r.step == 2 || r.first == r.last) && (r.small + q.first) % 2 == 1

/-- The small letters of a run lie outside a range. -/
def misses (r : CapitalRun) (range : Nat × Nat) : Bool :=
  (r.small + (r.last - r.first)).blt range.1 || range.2.blt r.small

theorem apart_of_mem : ∀ r ∈ capitalRuns, ∀ q ∈ capitalRuns, r.apart q := by
  have h : (capitalRuns.all fun r => capitalRuns.all r.apart) = true := by decide +kernel
  exact fun r hr q hq => List.all_eq_true.mp (List.all_eq_true.mp h r hr) q hq

theorem misses_of_mem : ∀ r ∈ capitalRuns, ∀ range ∈ (0, 90) :: (0x130, 0x130) :: blankRanges,
    r.misses range := by
  decide +kernel

variable {r q : CapitalRun} {m n : Nat}

theorem small?_eq_some : r.small? m = some n ↔
    r.first ≤ m ∧ m ≤ r.last ∧ (m - r.first) % r.step = 0 ∧ n = r.small + (m - r.first) := by
  unfold small?
  split
  · next h =>
    simp only [Bool.and_eq_true, decide_eq_true_eq, beq_iff_eq] at h
    simp [h, eq_comm]
  · next h =>
    simp only [Bool.and_eq_true, decide_eq_true_eq, beq_iff_eq] at h
    simpa using fun h₁ h₂ h₃ => absurd ⟨⟨h₁, h₂⟩, h₃⟩ h

theorem small?_eq_none (h : r.apart q) (hs : r.small? m = some n) : q.small? n = none := by
  obtain ⟨hfirst, hlast, hstep, rfl⟩ := small?_eq_some.mp hs
  refine Option.eq_none_iff_forall_ne_some.mpr fun k hk => ?_
  obtain ⟨hfirst', hlast', hstep', -⟩ := small?_eq_some.mp hk
  unfold apart at h
  simp only [Bool.or_eq_true, Bool.and_eq_true, Nat.blt_eq, beq_iff_eq] at h
  rcases h with (h | h) | ⟨⟨hq, hr⟩, hodd⟩
  · omega
  · omega
  · rw [hq] at hstep'
    rcases hr with hr | hr
    · rw [hr] at hstep
      omega
    · omega

theorem misses_small {range : Nat × Nat} (h : r.misses range) (hs : r.small? m = some n) :
    ¬ (range.1 ≤ n ∧ n ≤ range.2) := by
  obtain ⟨hfirst, hlast, -, rfl⟩ := small?_eq_some.mp hs
  unfold misses at h
  simp only [Bool.or_eq_true, Nat.blt_eq] at h
  omega

end CapitalRun

section

variable {c d : Char}

theorem toLower_of_lt (h : 90 < c.toNat) : c.toLower = c := by
  unfold Char.toLower
  split
  · next hu =>
    have hle : c.toNat ≤ 90 := UInt32.le_iff_toNat_le.mp hu.2
    omega
  · rfl

/-- A small form is an ASCII letter made small, the dotted i, or comes from a run of capitals. -/
theorem lowerChar_cases (c : Char) :
    c.toNat < 128 ∧ lowerChar c = [c.toLower] ∨ c = '\u0130' ∧ lowerChar c = ['i', '\u0307'] ∨
      (∃ r ∈ capitalRuns, ∃ n, r.small? c.toNat = some n ∧ lowerChar c = [.ofNat n]) ∨
      Small c := by
  unfold Small lowerChar
  split
  · next h => exact .inl ⟨h, rfl⟩
  · split
    · next h => exact .inr (.inl ⟨eq_of_beq h, rfl⟩)
    · split
      · next n hn =>
        obtain ⟨r, hr, hs⟩ := List.exists_of_findSome?_eq_some hn
        exact .inr (.inr (.inl ⟨r, hr, n, hs, rfl⟩))
      · exact .inr (.inr (.inr rfl))

theorem small_ofNat {r : CapitalRun} (hr : r ∈ capitalRuns) {m n : Nat}
    (h : r.small? m = some n) : Small (.ofNat n) := by
  by_cases hv : n.isValidChar
  · have hn : (Char.ofNat n).toNat = n := by
      rw [Char.ofNat, dif_pos hv]
      rfl
    have hascii := CapitalRun.misses_small
      (CapitalRun.misses_of_mem r hr (0, 90) List.mem_cons_self) h
    have hdot := CapitalRun.misses_small
      (CapitalRun.misses_of_mem r hr (0x130, 0x130) (by simp)) h
    have hruns : capitalRuns.findSome? (·.small? n) = none := by
      refine List.findSome?_eq_none_iff.mpr fun q hq => ?_
      exact CapitalRun.small?_eq_none (CapitalRun.apart_of_mem r hr q hq) h
    have hne : (Char.ofNat n == '\u0130') = false := by
      refine beq_false_of_ne fun he => hdot ?_
      rw [← hn, he]
      decide
    unfold Small lowerChar
    rw [hn, hne, hruns]
    split
    · rw [toLower_of_lt (by rw [hn]; exact Nat.lt_of_not_le fun hle => hascii ⟨n.zero_le, hle⟩)]
    · rfl
  · rw [Char.ofNat, dif_neg hv]
    decide

theorem small_of_mem (h : d ∈ lowerChar c) : Small d := by
  have hascii : ∀ n ∈ List.range 128, Small (Char.ofNat n).toLower := by decide +kernel
  rcases lowerChar_cases c with ⟨hc, hl⟩ | ⟨rfl, hl⟩ | ⟨r, hr, n, hn, hl⟩ | hs
  · rw [hl, List.mem_singleton] at h
    have hd := hascii c.toNat (List.mem_range.mpr hc)
    rwa [Char.ofNat_toNat, ← h] at hd
  · rw [hl] at h
    have hboth : ['i', '\u0307'].all fun d => Small d := by decide
    exact of_decide_eq_true (List.all_eq_true.mp hboth d h)
  · rw [hl, List.mem_singleton] at h
    exact h ▸ small_ofNat hr hn
  · rw [hs, List.mem_singleton] at h
    exact h ▸ hs

theorem Small.ne_sigma (h : Small c) : (c == 'Σ') = false := by
  refine beq_false_of_ne ?_
  rintro rfl
  exact absurd h (by decide)

theorem Small.toLower_eq (h : Small c) : c.toLower = c := by
  by_cases hc : c.toNat < 128
  · unfold Small lowerChar at h
    rw [if_pos hc] at h
    exact (List.cons.inj h).1
  · exact toLower_of_lt (by omega)

theorem small_lowerSigma (before after : List Char) : Small (lowerSigma before after) := by
  unfold lowerSigma
  split <;> decide

end

theorem small_of_mem_lowerFrom {before s : List Char} : ∀ d ∈ lowerFrom before s, Small d := by
  induction s generalizing before with
  | nil => nofun
  | cons c s ih =>
    intro d hd
    rw [lowerFrom, List.mem_append] at hd
    rcases hd with hd | hd
    · split at hd
      · rw [List.mem_singleton.mp hd]
        exact small_lowerSigma before s
      · exact small_of_mem hd
    · exact ih d hd

theorem lowerFrom_of_small {s : List Char} (h : ∀ d ∈ s, Small d) (before : List Char) :
    lowerFrom before s = s := by
  induction s generalizing before with
  | nil => rfl
  | cons c s ih =>
    have hc : Small c := h c List.mem_cons_self
    rw [lowerFrom, hc.ne_sigma, ih fun d hd => h d (List.mem_cons_of_mem c hd)]
    simp [show lowerChar c = [c] from hc]

theorem lowercase_lowercase (s : String) : lowercase (lowercase s) = lowercase s := by
  unfold lowercase
  rw [String.toList_ofList, lowerFrom_of_small small_of_mem_lowerFrom]

theorem lowerAscii_lowercase (s : String) : lowerAscii (lowercase s) = lowercase s := by
  unfold lowerAscii lowercase
  rw [String.toList_ofList]
  refine congrArg String.ofList ((List.map_congr_left fun d hd => ?_).trans (List.map_id _))
  exact (small_of_mem_lowerFrom d hd).toLower_eq

theorem toLower_cases (c : Char) : c.toLower = c ∨ c.toNat ∈ List.range' 65 26 := by
  unfold Char.toLower
  split
  · next h =>
    have hge : 65 ≤ c.toNat := UInt32.le_iff_toNat_le.mp h.1
    have hle : c.toNat ≤ 90 := UInt32.le_iff_toNat_le.mp h.2
    exact .inr (List.mem_range'_1.mpr ⟨hge, by omega⟩)
  · exact .inl rfl

theorem toLower_congr {α : Type} {f : Char → α}
    (h : ∀ n ∈ List.range' 65 26, f (Char.ofNat n).toLower = f (.ofNat n)) (c : Char) :
    f c.toLower = f c := by
  rcases toLower_cases c with hc | hc
  · rw [hc]
  · have hf := h c.toNat hc
    rwa [Char.ofNat_toNat] at hf

theorem isCased_toLower (c : Char) : isCased c.toLower = isCased c :=
  toLower_congr (by decide +kernel) c

theorem lowerChar_toLower (c : Char) : lowerChar c.toLower = lowerChar c :=
  toLower_congr (by decide +kernel) c

theorem toLower_eq_sigma (c : Char) : (c.toLower == 'Σ') = (c == 'Σ') :=
  toLower_congr (f := (· == 'Σ')) (by decide +kernel) c

theorem not_covers {runs : List (Nat × Nat)} {range : Nat × Nat} {c : Char}
    (h : ∀ run ∈ runs, run.2 < range.1 ∨ range.2 < run.1)
    (hc : range.1 ≤ c.toNat ∧ c.toNat ≤ range.2) : covers runs c = false := by
  refine List.any_eq_false.mpr fun run hr => ?_
  have hrange := h run hr
  simp only [Bool.and_eq_true, decide_eq_true_eq]
  omega

theorem isCaseIgnorable_toLower (c : Char) : isCaseIgnorable c.toLower = isCaseIgnorable c := by
  have hletters : ∀ n ∈ List.range' 65 26,
      (65 ≤ (Char.ofNat n).toNat ∧ (Char.ofNat n).toNat ≤ 90) ∧
        97 ≤ (Char.ofNat n).toLower.toNat ∧ (Char.ofNat n).toLower.toNat ≤ 122 := by
    decide +kernel
  have hcapitals : ∀ run ∈ caseIgnorableRanges, run.2 < (65, 90).1 ∨ (65, 90).2 < run.1 := by
    decide +kernel
  have hsmalls : ∀ run ∈ caseIgnorableRanges, run.2 < (97, 122).1 ∨ (97, 122).2 < run.1 := by
    decide +kernel
  refine toLower_congr (fun n hn => ?_) c
  obtain ⟨hcapital, hsmall⟩ := hletters n hn
  exact (not_covers hsmalls hsmall).trans (not_covers hcapitals hcapital).symm

theorem meetsCased_map_toLower (s : List Char) :
    meetsCased (s.map Char.toLower) = meetsCased s := by
  unfold meetsCased
  induction s with
  | nil => rfl
  | cons c s ih =>
    rw [List.map_cons, List.dropWhile_cons, List.dropWhile_cons, isCaseIgnorable_toLower]
    cases isCaseIgnorable c with
    | true => exact ih
    | false => exact isCased_toLower c

theorem lowerFrom_map_toLower (before s : List Char) :
    lowerFrom (before.map Char.toLower) (s.map Char.toLower) = lowerFrom before s := by
  induction s generalizing before with
  | nil => rfl
  | cons c s ih =>
    have hb := ih (c :: before)
    rw [List.map_cons] at hb ⊢
    rw [lowerFrom, lowerFrom, hb, toLower_eq_sigma, lowerChar_toLower, lowerSigma, lowerSigma,
      meetsCased_map_toLower, meetsCased_map_toLower]

theorem lowercase_lowerAscii (s : String) : lowercase (lowerAscii s) = lowercase s := by
  have h := lowerFrom_map_toLower [] s.toList
  unfold lowercase lowerAscii
  rw [String.toList_ofList]
  exact congrArg String.ofList h

end Showrunner.Text
