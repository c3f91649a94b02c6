import Showrunner.Text.Lowercase

namespace Showrunner.Text

theorem toLower_eq_zero_iff (c : Char) : c.toLower = '0' ↔ c = '0' := by
  constructor
  · intro h
    unfold Char.toLower at h
    split at h
    · next hu =>
      have hge : 65 ≤ c.toNat := UInt32.le_iff_toNat_le.mp hu.1
      have hle : c.toNat ≤ 90 := UInt32.le_iff_toNat_le.mp hu.2
      have hv : c.val + 32 = 48 := congrArg Char.val h
      have hn : (c.toNat + 32) % 4294967296 = 48 := congrArg UInt32.toNat hv
      omega
    · exact h
  · rintro rfl
    rfl

theorem lt_small : ∀ r ∈ capitalRuns, 48 < r.small := by decide +kernel

theorem lt_of_small? {r : CapitalRun} (hr : r ∈ capitalRuns) {m n : Nat}
    (h : r.small? m = some n) : 48 < n := by
  have hs := lt_small r hr
  unfold CapitalRun.small? at h
  split at h
  · cases h
    omega
  · cases h

theorem exists_lowerChar (c : Char) : ∃ d ds, lowerChar c = d :: ds ∧ (d = '0' ↔ c = '0') := by
  unfold lowerChar
  split
  · exact ⟨_, _, rfl, toLower_eq_zero_iff c⟩
  · next hascii =>
    have hc : c ≠ '0' := by
      rintro rfl
      exact hascii (by decide)
    split
    · exact ⟨_, _, rfl, iff_of_false (by decide) hc⟩
    · split
      · next n hn =>
        obtain ⟨r, hr, hs⟩ := List.exists_of_findSome?_eq_some hn
        have hlt := lt_of_small? hr hs
        refine ⟨_, _, rfl, iff_of_false (fun h => ?_) hc⟩
        by_cases hv : n.isValidChar
        · rw [Char.ofNat, dif_pos hv] at h
          have hz : n = 48 := congrArg Char.toNat h
          omega
        · rw [Char.ofNat, dif_neg hv] at h
          cases h
      · exact ⟨_, _, rfl, Iff.rfl⟩

theorem exists_lowerFrom (c : Char) (s : List Char) :
    ∃ d ds, lowerFrom [] (c :: s) = d :: ds ∧ (d = '0' ↔ c = '0') := by
  rw [lowerFrom]
  split
  · next hc =>
    obtain rfl := eq_of_beq hc
    refine ⟨_, _, rfl, iff_of_false ?_ (by decide)⟩
    unfold lowerSigma
    split <;> decide
  · obtain ⟨d, ds, hl, hd⟩ := exists_lowerChar c
    exact ⟨d, _, by rw [hl]; rfl, hd⟩

end Showrunner.Text
