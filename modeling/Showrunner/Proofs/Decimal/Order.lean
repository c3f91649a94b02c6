import Showrunner.Command.Resources
import Showrunner.Proofs.Decimal.Sign

/-!
The order of numbers, and what is not a number. Main statements: a number that is held between two
bounds lies between them (`clamp_mem`), and which texts are read as what is not a number
(`isNaN_read?`).
-/

open Float.Model

namespace Showrunner.Decimal

open UnpackedFloat (Sign)

section

variable {x y : Float}

theorem isNaN_iff : x.isNaN ↔ x.toModel.unpack = .notANumber := by
  change UnpackedFloat.isNaN x.toModel.unpack = true ↔ _
  cases x.toModel.unpack <;> simp [UnpackedFloat.isNaN]

theorem sign?_eq_none_iff {u : UnpackedFloat} : sign? u = none ↔ u = .notANumber := by
  cases u <;> simp [sign?]

theorem le_iff : x ≤ y ↔ (x.toModel.unpack.compare y.toModel.unpack).any (·.isLE) :=
  decide_eq_true_iff

theorem lt_iff : x < y ↔ x.toModel.unpack.compare y.toModel.unpack = some .lt :=
  decide_eq_true_iff.trans beq_iff_eq

theorem compare_swap {u v : UnpackedFloat} : v.compare u = (u.compare v).map Ordering.swap := by
  cases u with
  | notANumber => cases v <;> rfl
  | infinity a =>
    cases v with
    | notANumber => cases a <;> rfl
    | infinity b => cases a <;> cases b <;> rfl
    | zero b | finite b => cases a <;> rfl
  | zero a =>
    cases v with
    | notANumber => rfl
    | infinity b | finite b => cases b <;> rfl
    | zero b => rfl
  | finite a m e hm =>
    cases v with
    | notANumber => cases a <;> rfl
    | infinity b => cases a <;> cases b <;> rfl
    | zero b => cases a <;> rfl
    | finite b n f hn =>
      cases a <;> cases b <;> try rfl
      · simp [UnpackedFloat.compare, Ordering.swap_then, Int.compare_swap, Nat.compare_swap]
      · simp [UnpackedFloat.compare, Ordering.swap_then, Int.compare_swap, Nat.compare_swap]

theorem not_isNaN_of_sign? {s : Sign} (h : sign? x.toModel.unpack = some s) : ¬ x.isNaN := by
  rw [isNaN_iff]
  intro hx
  rw [hx] at h
  cases h

theorem exists_compare {u v : UnpackedFloat} (hu : u ≠ .notANumber) (hv : v ≠ .notANumber) :
    ∃ o, u.compare v = some o := by
  unfold UnpackedFloat.compare
  split
  · exact absurd rfl hu
  · exact absurd rfl hv
  all_goals exact ⟨_, rfl⟩

theorem lt_or_le (hx : ¬ x.isNaN) (hy : ¬ y.isNaN) : x < y ∨ y ≤ x := by
  rw [isNaN_iff] at hx hy
  obtain ⟨o, ho⟩ := exists_compare hy hx
  rw [lt_iff, le_iff, compare_swap, ho]
  cases o <;> decide

theorem le_self (hx : ¬ x.isNaN) : x ≤ x := by
  refine (lt_or_le hx hx).resolve_left fun h => ?_
  have hs := compare_swap (u := x.toModel.unpack) (v := x.toModel.unpack)
  rw [lt_iff.mp h] at hs
  cases hs

theorem clamp_mem {least greatest : Float} (hl : ¬ least.isNaN) (hg : ¬ greatest.isNaN)
    (h : least ≤ greatest) (hx : ¬ x.isNaN) :
    least ≤ Command.clamp least greatest x ∧ Command.clamp least greatest x ≤ greatest := by
  unfold Command.clamp
  split
  · exact ⟨le_self hl, h⟩
  · next hless =>
    split
    · exact ⟨h, le_self hg⟩
    · next hgreater =>
      exact ⟨(lt_or_le hx hl).resolve_left hless, (lt_or_le hg hx).resolve_left hgreater⟩

theorem clamp_of_isNaN (hx : x.isNaN) (least greatest : Float) :
    Command.clamp least greatest x = x := by
  have hn (y : Float) : ¬ x < y ∧ ¬ y < x := by
    rw [lt_iff, lt_iff, isNaN_iff.mp hx]
    exact ⟨nofun, fun h => by rw [compare_swap] at h; cases h⟩
  unfold Command.clamp
  rw [if_neg (hn least).1, if_neg (hn greatest).2]

theorem isNaN_div (hx : x.isNaN) (y : Float) : (x / y).isNaN := by
  have hd : UnpackedFloat.div double x.toModel.unpack y.toModel.unpack = .notANumber := by
    rw [isNaN_iff.mp hx]
    rfl
  rw [isNaN_iff]
  change UnpackedFloat.unpack double (UnpackedFloat.pack double (UnpackedFloat.div double _ _)) = _
  rw [hd]
  rfl

theorem unpack_zero : (0 : Float).toModel.unpack = .zero .positive := by rfl

theorem Unsigned.nonneg (hx : Unsigned x) : 0 ≤ x := by
  rw [le_iff, unpack_zero]
  unfold Unsigned at hx
  generalize x.toModel.unpack = u at hx
  cases u <;> cases hx <;> rfl

theorem isNaN_neg : (-x).isNaN ↔ x.isNaN := by
  have hn : (-x).toModel.unpack = UnpackedFloat.unpack double (UnpackedFloat.pack double
    (UnpackedFloat.neg x.toModel.unpack)) := rfl
  rw [isNaN_iff, isNaN_iff, ← sign?_eq_none_iff, ← sign?_eq_none_iff, hn, sign?_unpack_pack]
  cases x.toModel.unpack <;> simp [UnpackedFloat.neg, sign?]

end

/-- A text that spells what is not a number: `nan` in any case, after an optional sign. -/
def SpellsNaN (w : String) : Prop :=
  ∃ name, (w.toList = name ∨ w.toList = '+' :: name ∨ w.toList = '-' :: name) ∧
    name.map Char.toLower = "nan".toList

theorem unsigned_of_unsigned? {s : List Char} {x : Float} (h : unsigned? s = some x) :
    Unsigned x := by
  unfold unsigned? at h
  dsimp only at h
  -- with a point or without
  split at h <;>
  · obtain ⟨_, h⟩ := Option.ite_none_left_eq_some.mp h
    obtain ⟨e, _, rfl⟩ := Option.map_eq_some_iff.mp h
    exact unsigned_scaled _ _

theorem isNaN_magnitude? {s : List Char} {x : Float} (h : magnitude? s = some x) :
    x.isNaN ↔ s.map Char.toLower = "nan".toList := by
  unfold magnitude? at h
  dsimp only at h
  split at h
  · next hinf =>
    cases h
    have hne : s.map Char.toLower ≠ "nan".toList := by
      intro hn
      rw [hn] at hinf
      revert hinf
      decide
    simp only [hne, iff_false]
    decide
  · split at h
    · next hnan =>
      cases h
      simp only [eq_of_beq hnan, iff_true]
      decide
    · next hnan =>
      exact iff_of_false (not_isNaN_of_sign? (unsigned_of_unsigned? h)) (by simpa using hnan)

/-- Only a text that spells what is not a number is read as such. -/
theorem isNaN_read? {w : String} {x : Float} (h : read? w = some x) : x.isNaN ↔ SpellsNaN w := by
  unfold SpellsNaN
  unfold read? at h
  split at h
  · next r hw =>
    obtain ⟨y, hy, rfl⟩ := Option.map_eq_some_iff.mp h
    rw [isNaN_neg, isNaN_magnitude? hy, hw]
    constructor
    · exact fun hn => ⟨r, .inr (.inr rfl), hn⟩
    · rintro ⟨name, rfl | hr | hr, hn⟩
      · simp at hn
      · simp at hr
      · cases hr
        exact hn
  · next r hw =>
    rw [isNaN_magnitude? h, hw]
    constructor
    · exact fun hn => ⟨r, .inr (.inl rfl), hn⟩
    · rintro ⟨name, rfl | hr | hr, hn⟩
      · simp at hn
      · cases hr
        exact hn
      · simp at hr
  · next hminus hplus =>
    rw [isNaN_magnitude? h]
    constructor
    · exact fun hn => ⟨w.toList, .inl rfl, hn⟩
    · rintro ⟨name, rfl | hr | hr, hn⟩
      · exact hn
      · exact absurd hr (hplus name)
      · exact absurd hr (hminus name)

end Showrunner.Decimal
