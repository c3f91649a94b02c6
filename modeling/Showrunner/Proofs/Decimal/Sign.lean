import Mathlib
import Showrunner.Proofs.Decimal.Numeral

open Float.Model

namespace Showrunner.Decimal

open UnpackedFloat (Sign packComponents packedInfinity)

abbrev double : Format := .binary64

def sign? : UnpackedFloat → Option Sign
  | .infinity s | .zero s | .finite s _ _ _ => some s
  | .notANumber => none

theorem sign?_unpack {s : Sign} {e : BitVec 11} (he : e ≠ -1#11) (m : BitVec 52) :
    sign? (UnpackedFloat.unpack double (packComponents double s e m)) = some s := by
  unfold UnpackedFloat.unpack
  simp only [UnpackedFloat.unpackMantissa_packComponents,
    UnpackedFloat.unpackExponent_packComponents, UnpackedFloat.unpackSign_packComponents,
    Sign.ofBitVec_toBitVec]
  rw [if_neg he]
  split
  · split <;> rfl
  · rfl

theorem sign?_unpack_pack (u : UnpackedFloat) :
    sign? (UnpackedFloat.unpack double (UnpackedFloat.pack double u)) = sign? u := by
  have hi : ∀ s, sign? (UnpackedFloat.unpack double (packedInfinity double s)) = some s := by
    intro s
    cases s <;> rfl
  cases u with
  | notANumber => rfl
  | infinity s => exact hi s
  | zero s => cases s <;> rfl
  | finite s m e h =>
    unfold UnpackedFloat.pack
    dsimp only
    split
    · exact hi s
    · next hb =>
      split
      · refine sign?_unpack (fun he => ?_) _
        have hn := congrArg BitVec.toNat he
        rw [BitVec.toNat_ofNat] at hn
        have : (-1#11).toNat = 2047 := by decide
        omega
      · exact sign?_unpack (by decide) _

section

variable (spec : Format) {u v : UnpackedFloat}

theorem sign?_round (s : Sign) (m : Nat) (e : Int) (a : UnpackedFloat.Accuracy) :
    sign? (UnpackedFloat.roundWithAccuracy spec s m e a) = some s := by
  unfold UnpackedFloat.roundWithAccuracy
  dsimp only
  split <;> rfl

theorem sign?_normalize {m : Int} (hm : 0 ≤ m) (e : Int) :
    sign? (UnpackedFloat.normalize spec m e .positive) = some .positive := by
  unfold UnpackedFloat.normalize
  split
  · next h => exact absurd (Int.compare_eq_lt.mp h) (by omega)
  · rfl
  · exact sign?_round ..

theorem sign?_add (hu : sign? u = some .positive) (hv : sign? v = some .positive) :
    sign? (UnpackedFloat.add spec u v) = some .positive := by
  cases u <;> cases v <;> cases hu <;> cases hv <;> try rfl
  exact sign?_normalize spec (Int.add_nonneg (Int.natCast_nonneg _) (Int.natCast_nonneg _)) _

theorem sign?_ofScientific (m : Nat) (e : Int) :
    sign? (UnpackedFloat.ofScientific spec m e) = some .positive := by
  unfold UnpackedFloat.ofScientific
  split
  · rfl
  · split
    · rfl
    · split
      · rfl
      · split <;> exact sign?_round ..

end

/-- A number with the sign of plus, nothing and infinity included. -/
def Unsigned (x : Float) : Prop := sign? x.toModel.unpack = some .positive

instance decEqSign : DecidableEq Sign
  | .negative, .negative | .positive, .positive => isTrue rfl
  | .negative, .positive | .positive, .negative => isFalse Sign.noConfusion

instance (x : Float) : Decidable (Unsigned x) := inferInstanceAs (Decidable (_ = _))

def isPositive : UnpackedFloat → Bool
  | .finite .positive _ _ _ => true
  | _ => false

/-- A number with the sign of plus that is neither nothing nor infinite. -/
def Positive (x : Float) : Prop := isPositive x.toModel.unpack

instance (x : Float) : Decidable (Positive x) := inferInstanceAs (Decidable (_ = true))

section

variable {x y : Float}

theorem Positive.exists_finite (h : Positive x) :
    ∃ m e hm, x.toModel.unpack = .finite .positive m e hm := by
  unfold Positive isPositive at h
  split at h
  · next hx => exact ⟨_, _, _, hx⟩
  · cases h

theorem Positive.unsigned (h : Positive x) : Unsigned x := by
  obtain ⟨m, e, hm, hx⟩ := h.exists_finite
  rw [Unsigned, hx]
  rfl

theorem Unsigned.add (hx : Unsigned x) (hy : Unsigned y) : Unsigned (x + y) :=
  (sign?_unpack_pack _).trans (sign?_add double hx hy)

theorem Unsigned.mul (hx : Unsigned x) (hy : Positive y) : Unsigned (x * y) := by
  obtain ⟨m, e, hm, hf⟩ := hy.exists_finite
  refine (sign?_unpack_pack _).trans ?_
  unfold Unsigned at hx
  change sign? (UnpackedFloat.mul double x.toModel.unpack y.toModel.unpack) = _
  rw [hf]
  generalize x.toModel.unpack = u at hx
  cases u <;> cases hx <;> try rfl
  exact sign?_round ..

theorem Unsigned.div (hx : Unsigned x) (hy : Positive y) : Unsigned (x / y) := by
  obtain ⟨m, e, hm, hf⟩ := hy.exists_finite
  refine (sign?_unpack_pack _).trans ?_
  unfold Unsigned at hx
  change sign? (UnpackedFloat.div double x.toModel.unpack y.toModel.unpack) = _
  rw [hf]
  generalize x.toModel.unpack = u at hx
  cases u <;> cases hx <;> try rfl
  exact sign?_round ..

theorem model_pack_unpack (m : Float.Model) : Float.Model.pack m.unpack = m := by
  obtain ⟨⟨b⟩, hv⟩ := m
  unfold Float.Model.pack
  congr
  exact UnpackedFloat.pack_unpack_of_valid hv

/-- Only minus nothing is changed when nothing is put before it. -/
theorem Unsigned.zero_add (hx : Unsigned x) : 0 + x = x := by
  have ha : UnpackedFloat.add double (.zero .positive) x.toModel.unpack = x.toModel.unpack := by
    unfold Unsigned at hx
    generalize x.toModel.unpack = u at hx
    cases u <;> cases hx <;> rfl
  change Float.ofModel (Float.Model.pack (UnpackedFloat.add double (.zero .positive) _)) = x
  rw [ha, model_pack_unpack]

theorem powers_positive : ∀ i : Fin 23, Positive Float.exactlyRepresentablePowersOfTen[i] := by
  decide

theorem unsigned_ofUInt64 (n : UInt64) : Unsigned n.toFloat :=
  (sign?_unpack_pack _).trans (sign?_normalize double (Int.natCast_nonneg _) _)

theorem unsigned_ofScientific (m : Nat) (s : Bool) (e : Nat) :
    Unsigned (.ofScientific m s e) := by
  unfold Float.ofScientific
  split
  · next h =>
    have hp := powers_positive ⟨e, by omega⟩
    have hm := unsigned_ofUInt64 m.toUInt64
    dsimp only
    split
    · exact hm.div hp
    · exact hm.mul hp
  · exact (sign?_unpack_pack _).trans (sign?_ofScientific double m _)

theorem unsigned_scaled (m : Nat) (e : Int) : Unsigned (scaled m e) := by
  unfold scaled
  dsimp only
  split
  · rfl
  · split
    · rfl
    · exact unsigned_ofScientific ..

end

theorem Numeral.unsigned_value (n : Numeral) : Unsigned n.value := unsigned_scaled _ _

end Showrunner.Decimal
