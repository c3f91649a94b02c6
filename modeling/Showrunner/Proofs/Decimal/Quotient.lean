import Showrunner.Proofs.Decimal.Order

/-!
Rounding does not lead a quotient out of its range. Main statement: a hundredth of a number from 0
to 100 is a number from 0 to 1 (`hundredth_mem`).
-/

open Float.Model

namespace Showrunner.Decimal

open UnpackedFloat (Sign Accuracy ExtendedMantissa packComponents roundWithAccuracy divCore
  shiftToExponent shiftToTargetExponent)

theorem unpack_hundred : ∃ h, (100 : Float).toModel.unpack =
    .finite .positive (100 * 2 ^ 46) (-46) h :=
  ⟨by decide, by rfl⟩

theorem unpack_one : ∃ h, (1 : Float).toModel.unpack = .finite .positive (2 ^ 52) (-52) h :=
  ⟨by decide, by rfl⟩

theorem log2_lt_of_lt {m k : Nat} (hk : 0 < k) (hm : m < 2 ^ k) : m.log2 < k := by
  by_cases h0 : m = 0
  · subst h0
    exact hk
  · exact (Nat.log2_lt h0).mpr hm

theorem target_le {m k i : Nat} (hm : m < 2 ^ (k + i)) (hk : 0 < k + i) :
    double.targetExponent (totalExponent m (-k)) ≤ i - 53 := by
  have hlog := log2_lt_of_lt hk hm
  change max ((m.log2 : Int) + 1 + -k - 53) (-1074) ≤ _
  omega

theorem mantissa_shiftRight (em : ExtendedMantissa) (n : Nat) :
    (em >>> n).mantissa = em.mantissa / 2 ^ n := by
  change (n.repeat ExtendedMantissa.shiftRightOne em).mantissa = _
  induction n with
  | zero => simp [Nat.repeat]
  | succ n ih =>
    rw [Nat.repeat, ExtendedMantissa.shiftRightOne, ih, Nat.div_div_eq_div_mul, Nat.pow_succ]

theorem mantissa_ofMantissaAndAccuracy (m : Nat) (a : Accuracy) :
    (ExtendedMantissa.ofMantissaAndAccuracy m a).mantissa = m := by
  cases a with
  | exact => rfl
  | inexact o => cases o <;> rfl

theorem roundedMantissa_le (em : ExtendedMantissa) : em.roundedMantissa ≤ em.mantissa + 1 := by
  unfold ExtendedMantissa.roundedMantissa Accuracy.roundToNearestEven
  split <;> omega

theorem exists_shift {m k i : Nat} (a : Accuracy) (hi : i ≤ 53) (hk : 53 ≤ k + i)
    (hm : m < 2 ^ (k + i)) : ∃ l : Nat, 53 ≤ l + i ∧ l ≤ k ∧
      (shiftToTargetExponent double m (-k) a).1.mantissa = m / 2 ^ (k - l) ∧
      (shiftToTargetExponent double m (-k) a).2 = -l := by
  unfold shiftToTargetExponent shiftToExponent
  dsimp only
  have ht := target_le hm (by omega)
  generalize double.targetExponent (totalExponent m (-k)) = target at ht ⊢
  refine ⟨k - (target - -k).toNat, by omega, by omega, ?_, by omega⟩
  rw [mantissa_shiftRight, mantissa_ofMantissaAndAccuracy]
  congr 2
  omega

theorem two_pow_split {k l : Nat} (h : l ≤ k) : 2 ^ k = 2 ^ l * 2 ^ (k - l) := by
  rw [← Nat.pow_add, Nat.add_sub_cancel' h]

theorem exists_rounded {m k : Nat} (hk : 53 ≤ k) (hm : m < 2 ^ k) (a : Accuracy) :
    ∃ l : Nat, 53 ≤ l ∧ (shiftToTargetExponent double m (-k) a).1.roundedMantissa ≤ 2 ^ l ∧
      (shiftToTargetExponent double m (-k) a).2 = -l := by
  obtain ⟨l, hl, hlk, hmant, hexp⟩ := exists_shift (i := 0) a (by decide) hk hm
  have hless : m / 2 ^ (k - l) < 2 ^ l := by
    rw [Nat.div_lt_iff_lt_mul (Nat.two_pow_pos _), ← two_pow_split hlk]
    exact hm
  exact ⟨l, hl, (roundedMantissa_le _).trans (hmant ▸ hless), hexp⟩

/-- The second shift makes up for a bit that rounding may have added. -/
theorem exists_reshifted {n l : Nat} (hl : 53 ≤ l) (hn : n ≤ 2 ^ l) :
    ∃ j : Nat, 52 ≤ j ∧ (shiftToTargetExponent double n (-l) .exact).1.mantissa ≤ 2 ^ j ∧
      (shiftToTargetExponent double n (-l) .exact).2 = -j := by
  have hbits : n < 2 ^ (l + 1) := hn.trans_lt (Nat.pow_lt_pow_right (by decide) l.lt_succ_self)
  obtain ⟨j, hj, hjl, hmant, hexp⟩ := exists_shift .exact (by decide) (by omega) hbits
  refine ⟨j, by omega, ?_, hexp⟩
  rw [hmant]
  refine Nat.div_le_of_le_mul ?_
  rwa [Nat.mul_comm, ← two_pow_split hjl]

theorem round_bound {m k : Nat} (hk : 53 ≤ k) (hm : m < 2 ^ k) (a : Accuracy) :
    roundWithAccuracy double .positive m (-k) a = .zero .positive ∨
      ∃ (n j : Nat) (h : 0 < n), 52 ≤ j ∧ n ≤ 2 ^ j ∧
        roundWithAccuracy double .positive m (-k) a = .finite .positive n (-j) h := by
  unfold roundWithAccuracy
  obtain ⟨l, hl, hround, hexp⟩ := exists_rounded hk hm a
  generalize shiftToTargetExponent double m (-k) a = first at hround hexp ⊢
  obtain ⟨em, e⟩ := first
  dsimp only at hround hexp ⊢
  subst hexp
  obtain ⟨j, hj, hmant, hexp⟩ := exists_reshifted hl hround
  generalize shiftToTargetExponent double _ (-l) _ = second at hmant hexp ⊢
  obtain ⟨em', e'⟩ := second
  dsimp only at hmant hexp ⊢
  subst hexp
  split
  · exact .inl rfl
  · next h => exact .inr ⟨_, j, Nat.pos_of_ne_zero h, hj, hmant, rfl⟩

theorem compare_components_le_one {e : BitVec 11} {m : BitVec 52} (he : e.toNat ≤ 1023)
    (hm : e.toNat = 1023 → m = 0#52) :
    ((UnpackedFloat.unpack double (packComponents double .positive e m)).compare
      (1 : Float).toModel.unpack).any (·.isLE) := by
  obtain ⟨h1, hone⟩ := unpack_one
  rw [hone]
  have hinf : e ≠ -1#11 := by
    rintro rfl
    exact absurd he (by decide)
  unfold UnpackedFloat.unpack
  simp only [UnpackedFloat.unpackMantissa_packComponents,
    UnpackedFloat.unpackExponent_packComponents, UnpackedFloat.unpackSign_packComponents,
    Sign.ofBitVec_toBitVec, if_neg hinf]
  split
  · next h0 =>
    subst h0
    split <;> rfl
  · have hbias : (double.exponentBias : Int) + (double.mantissaBitsWithoutImplicit : Nat) = 1075 :=
      rfl
    rw [hbias]
    unfold UnpackedFloat.compare
    rcases Nat.lt_or_eq_of_le he with hlt | heq
    · have hc : compare ((e.toNat : Int) - 1075) (-52) = .lt := by
        rw [Int.compare_eq_lt]
        omega
      rw [hc]
      rfl
    · rw [hm heq, heq]
      rfl

theorem compare_pack_le_one {n j : Nat} (h : 0 < n) (hj : 52 ≤ j) (hn : n ≤ 2 ^ j) :
    ((UnpackedFloat.unpack double (UnpackedFloat.pack double
      (.finite .positive n (-j) h))).compare (1 : Float).toModel.unpack).any (·.isLE) := by
  unfold UnpackedFloat.pack
  have hbias : -(j : Int) + (double.exponentBias : Nat) +
      (double.mantissaBitsWithoutImplicit : Nat) = 1075 - j := by
    change -(j : Int) + 1023 + 52 = _
    omega
  dsimp only
  rw [hbias]
  have hb : ((1075 : Int) - j).toNat ≤ 1023 := by omega
  rw [if_neg (show ¬ 2 ^ 11 ≤ _ by omega)]
  split
  · next hlog =>
    have he : (BitVec.ofNat 11 ((1075 : Int) - j).toNat).toNat = ((1075 : Int) - j).toNat := by
      rw [BitVec.toNat_ofNat]
      exact Nat.mod_eq_of_lt (by omega)
    refine compare_components_le_one (he.trans_le hb) fun h1023 => ?_
    -- the exponent is that of one, and the mantissa as well
    have hj' : j = 52 := by omega
    subst hj'
    have hn' : n = 2 ^ 52 := by
      refine Nat.le_antisymm hn ?_
      have hl := Nat.log2_self_le (Nat.pos_iff_ne_zero.mp h)
      rwa [show n.log2 = 52 from Nat.succ.inj hlog] at hl
    subst hn'
    rfl
  · exact compare_components_le_one (Nat.zero_le _) fun h => by cases h

theorem mantissa_lt {b : BitVec 64} {s : Sign} {m : Nat} {e : Int} {h : 0 < m}
    (hu : UnpackedFloat.unpack double b = .finite s m e h) : m < 2 ^ 53 := by
  unfold UnpackedFloat.unpack at hu
  dsimp only at hu
  split at hu
  · split at hu <;> cases hu
  · split at hu
    · split at hu
      · cases hu
      · cases hu
        exact Nat.lt_trans (BitVec.isLt _) (by decide)
    · cases hu
      exact BitVec.isLt _

/-- What is less than a hundred divided by a hundred is less than one, and its exponent leaves room
for the bits of a mantissa. -/
theorem div_bound {m : Nat} {e : Int} (hm : m < 2 ^ 53)
    (h : e < -46 ∨ (e = -46 ∧ m < 100 * 2 ^ 46)) :
    ∃ (q k : Nat) (a : Accuracy),
      divCore double m e (100 * 2 ^ 46) (-46) = (q, -(k : Int), a) ∧ 53 ≤ k ∧ q < 2 ^ k := by
  have hlog := log2_lt_of_lt (by decide) hm
  have hhundred : totalExponent (100 * 2 ^ 46) (-46) = 7 := by decide
  unfold divCore
  rw [hhundred]
  have htarget : min (e - -46) (double.targetExponent (totalExponent m e - 7)) ≤ -53 ∧
      min (e - -46) (double.targetExponent (totalExponent m e - 7)) ≤ e + 46 := by
    change min (e - -46) (max ((m.log2 : Int) + 1 + e - 7 - 53) (-1074)) ≤ _ ∧
      min (e - -46) (max ((m.log2 : Int) + 1 + e - 7 - 53) (-1074)) ≤ _
    omega
  generalize min (e - -46) _ = target at htarget
  obtain ⟨k, rfl⟩ : ∃ k : Nat, target = -k := ⟨(-target).toNat, by omega⟩
  refine ⟨_, k, _, rfl, by omega, ?_⟩
  rw [Nat.shiftLeft_eq, Nat.div_lt_iff_lt_mul (by decide)]
  generalize hs : (e - -46 - -(k : Int)).toNat = shift
  rcases h with he | ⟨rfl, hless⟩
  · calc m * 2 ^ shift < 2 ^ 53 * 2 ^ shift := Nat.mul_lt_mul_of_pos_right hm (Nat.two_pow_pos _)
      _ = 2 ^ (shift + 1) * 2 ^ 52 := by rw [Nat.pow_succ]; omega
      _ ≤ 2 ^ k * (100 * 2 ^ 46) :=
        Nat.mul_le_mul (Nat.pow_le_pow_right (by decide) (by omega)) (by decide)
  · have hk : shift = k := by omega
    rw [hk, Nat.mul_comm]
    exact Nat.mul_lt_mul_of_pos_left hless (Nat.two_pow_pos _)

theorem unpack_of_mem {x : Float} (h0 : 0 ≤ x) (h1 : x ≤ 100) :
    (∃ s, x.toModel.unpack = .zero s) ∨ x.toModel.unpack = (100 : Float).toModel.unpack ∨
      ∃ m e h, x.toModel.unpack = .finite .positive m e h ∧
        (e < -46 ∨ (e = -46 ∧ m < 100 * 2 ^ 46)) := by
  obtain ⟨hp, hhundred⟩ := unpack_hundred
  rw [le_iff, unpack_zero] at h0
  rw [le_iff, hhundred] at h1
  rw [hhundred]
  generalize x.toModel.unpack = u at h0 h1
  match u with
  | .notANumber | .infinity .negative | .finite .negative .. => cases h0
  | .infinity .positive => cases h1
  | .zero s => exact .inl ⟨s, rfl⟩
  | .finite .positive m e hm =>
    refine .inr ?_
    unfold UnpackedFloat.compare at h1
    rcases lt_trichotomy e (-46) with he | rfl | he
    · exact .inr ⟨m, e, hm, rfl, .inl he⟩
    · have hle : m ≤ 100 * 2 ^ 46 := Nat.isLE_compare.mp (by simpa using h1)
      rcases Nat.lt_or_eq_of_le hle with hless | rfl
      · exact .inr ⟨m, -46, hm, rfl, .inr ⟨rfl, hless⟩⟩
      · exact .inl rfl
    · simp [Int.compare_eq_gt.mpr he] at h1

theorem div_of_divCore {m n q : Nat} {e f g : Int} {a : Accuracy} (hm : 0 < m) (hn : 0 < n)
    (h : divCore double m e n f = (q, g, a)) :
    UnpackedFloat.div double (.finite .positive m e hm) (.finite .positive n f hn) =
      roundWithAccuracy double .positive q g a := by
  unfold UnpackedFloat.div
  dsimp only
  rw [h]
  rfl

/-- A hundredth of a number from 0 to 100 is a number from 0 to 1. -/
theorem hundredth_mem {x : Float} (h0 : 0 ≤ x) (h1 : x ≤ 100) : 0 ≤ x / 100 ∧ x / 100 ≤ 1 := by
  obtain ⟨hp, hhundred⟩ := unpack_hundred
  have hdiv : (x / 100).toModel.unpack = UnpackedFloat.unpack double (UnpackedFloat.pack double
    (UnpackedFloat.div double x.toModel.unpack (100 : Float).toModel.unpack)) := rfl
  rcases unpack_of_mem h0 h1 with ⟨s, hx⟩ | hx | ⟨m, e, hm, hx, hless⟩
  · rw [le_iff, le_iff, hdiv, hx]
    cases s <;> decide
  · rw [le_iff, le_iff, hdiv, hx]
    decide
  · have hpos : Unsigned x := by
      rw [Unsigned, hx]
      rfl
    refine ⟨(hpos.div (by decide)).nonneg, ?_⟩
    obtain ⟨q, k, a, hcore, hk, hq⟩ := div_bound (mantissa_lt hx) hless
    rw [le_iff, hdiv, hx, hhundred, div_of_divCore hm hp hcore]
    rcases round_bound hk hq a with hz | ⟨n, j, hn, hj, hone, hf⟩
    · rw [hz]
      decide
    · rw [hf]
      exact compare_pack_le_one hn hj hone

end Showrunner.Decimal
