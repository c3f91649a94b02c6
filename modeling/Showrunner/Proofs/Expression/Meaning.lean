import Showrunner.Expression.Value
import Showrunner.Proofs.Decimal.Order

/-!
What the operations on values mean, by themselves: as the operations and relations of numbers, and
the order of texts. The operations of the reader are these.
-/

namespace Showrunner.Expression.Meaning

open Decimal

def number? : Value → Option Float
  | .num x => some x
  | .bool true => some 1
  | .bool false => some 0
  | .str _ => none

def display : Value → String
  | .str s => s
  | .bool true => "True"
  | .bool false => "False"
  | .num x =>
    match whole? x with
    | some n => if -1000000000000000 < n ∧ n < 1000000000000000 then toString n else plain x
    | none => plain x

def IsTrue : Value → Prop
  | .num x => ¬ x == 0
  | .str s => s ≠ ""
  | .bool b => b

instance : DecidablePred IsTrue
  | .num x => inferInstanceAs (Decidable ¬ (x == 0) = true)
  | .str s => inferInstanceAs (Decidable (s ≠ ""))
  | .bool b => inferInstanceAs (Decidable (b = true))

def onNumbers : Arithmetic → Float → Float → Float
  | .power => Float.pow
  | .times => (· * ·)
  | .plus => (· + ·)
  | .minus => (· - ·)
  | .quotient => (· / ·)
  | .floorQuotient => fun x y => (x / y).floor
  | .remainder => fun x y => x - y * (x / y).floor

/-- What an operation gives for values that are not both numbers. -/
def onOthers (a b : Value) : Arithmetic → Except Failure Value
  | .plus => .ok (.str (display a ++ display b))
  | .minus => .error (.illTyped (.notSubtractable a b))
  | op => .error (.illTyped (.notNumbers op a b))

def Divides (op : Arithmetic) : Prop := op ∈ [.quotient, .floorQuotient, .remainder]

instance : DecidablePred Divides := fun op => inferInstanceAs (Decidable (op ∈ _))

def arithmetic (op : Arithmetic) (a b : Value) : Except Failure Value :=
  match number? a, number? b with
  | some x, some y =>
    if Divides op ∧ y == 0 then .error .divisionByZero else .ok (.num (onNumbers op x y))
  | _, _ => onOthers a b op

/-- A comparison as the relation of an order. -/
def related {α : Type} [LT α] [LE α] [BEq α] [DecidableLT α] [DecidableLE α] (x y : α) :
    Comparison → Bool
  | .equal => x == y
  | .different => x != y
  | .less => x < y
  | .atMost => x ≤ y
  | .greater => y < x
  | .atLeast => y ≤ x

/-- Values that are in no order are different, and cannot be compared otherwise. -/
def unrelated (a b : Value) : Comparison → Except Failure Bool
  | .equal => .ok false
  | .different => .ok true
  | op => .error (.illTyped (.incomparable a op b))

def comparison (op : Comparison) (a b : Value) : Except Failure Bool :=
  match a, b with
  | .str s, .str t => .ok (related s t op)
  | a, b =>
    match number? a, number? b with
    | some x, some y => if x.isNaN ∨ y.isNaN then unrelated a b op else .ok (related x y op)
    | _, _ => unrelated a b op

def connective (op : Connective) (a b : Value) : Value :=
  match op with
  | .and => if IsTrue a then b else a
  | .or => if IsTrue a then a else b

def binary : Binary → Value → Value → Except Failure Value
  | .arithmetic op, a, b => arithmetic op a b
  | .connective op, a, b => .ok (connective op a b)

def signed (sign : Sign) (a : Value) : Except Failure Value :=
  match number? a, sign with
  | some x, .plus => .ok (.num x)
  | some x, .minus => .ok (.num (-x))
  | none, sign => .error (.illTyped (.notSignable sign a))

theorem number?_eq (a : Value) : a.number? = number? a := by
  rcases a with x | s | b
  · rfl
  · rfl
  · cases b <;> rfl

theorem text_eq : Value.text = display := by
  funext a
  rcases a with x | s | b
  · simp only [Value.text, numberText, display]
    cases whole? x with
    | none => rfl
    | some n =>
      apply if_congr _ rfl rfl
      change n.natAbs < 1000000000000000 ↔ _
      omega
  · rfl
  · cases b <;> rfl

theorem truthy_iff (a : Value) : a.truthy ↔ IsTrue a := by
  rcases a with x | s | b
  · simp [Value.truthy, IsTrue, bne]
  · simp [Value.truthy, IsTrue]
  · rfl

theorem apply_eq (op : Arithmetic) (a b : Value) : op.apply a b = arithmetic op a b := by
  unfold Arithmetic.apply arithmetic
  rw [number?_eq, number?_eq]
  cases number? a with
  | none => cases op <;> simp only [onOthers, text_eq]
  | some x =>
    cases number? b with
    | none => cases op <;> simp only [onOthers, text_eq]
    | some y =>
      by_cases hy : y == 0
      · cases op <;> simp [Arithmetic.compute, Except.map, Divides, onNumbers, hy]
      · cases op <;> simp [Arithmetic.compute, Except.map, Divides, onNumbers, hy]

section

variable {x y : Float}

theorem order_eq_compare :
    (if x < y then some .lt else if x == y then some .eq else if y < x then some .gt else none) =
      x.toModel.unpack.compare y.toModel.unpack := by
  have hb : (x == y) = (x.toModel.unpack.compare y.toModel.unpack == some .eq) := rfl
  rw [hb]
  simp only [lt_iff, compare_swap (u := x.toModel.unpack) (v := y.toModel.unpack)]
  cases x.toModel.unpack.compare y.toModel.unpack with
  | none => rfl
  | some o => cases o <;> rfl

theorem compare_eq_none_iff :
    x.toModel.unpack.compare y.toModel.unpack = none ↔ x.isNaN ∨ y.isNaN := by
  rw [isNaN_iff, isNaN_iff]
  constructor
  · intro h
    apply Classical.byContradiction
    intro hn
    obtain ⟨hx, hy⟩ := not_or.mp hn
    obtain ⟨o, ho⟩ := exists_compare hx hy
    rw [ho] at h
    cases h
  · rintro (hx | hy)
    · rw [hx]
      rfl
    · rw [compare_swap, hy]
      rfl

theorem order?_of_numbers {a b : Value} (ha : number? a = some x) (hb : number? b = some y) :
    a.order? b = x.toModel.unpack.compare y.toModel.unpack := by
  rw [← order_eq_compare]
  simp only [Value.order?, number?_eq, ha, hb]

end

theorem order?_str (s t : String) :
    (Value.str s).order? (.str t) = some (if s < t then .lt else if s = t then .eq else .gt) := rfl

theorem order?_of_others {a b : Value} (h : number? a = none ∨ number? b = none)
    (hs : ∀ s t, ¬ (a = .str s ∧ b = .str t)) : a.order? b = none := by
  rcases a with x | s | v
  · rcases b with y | t | w
    · simp [number?] at h
    · rfl
    · cases w <;> simp [number?] at h
  · rcases b with y | t | w
    · rfl
    · exact absurd ⟨rfl, rfl⟩ (hs s t)
    · rfl
  · rcases b with y | t | w
    · cases v <;> simp [number?] at h
    · rfl
    · cases v <;> cases w <;> simp [number?] at h

theorem holds_of_order?_none {a b : Value} (h : a.order? b = none) (op : Comparison) :
    op.holds a b = unrelated a b op := by
  cases op <;> simp [Comparison.holds, h, unrelated]

theorem holds_numbers {a b : Value} {x y : Float} (ha : number? a = some x)
    (hb : number? b = some y) (op : Comparison) : op.holds a b =
      if x.isNaN ∨ y.isNaN then unrelated a b op else .ok (related x y op) := by
  have ho := order?_of_numbers ha hb
  cases hc : x.toModel.unpack.compare y.toModel.unpack with
  | none =>
    rw [if_pos (compare_eq_none_iff.mp hc)]
    exact holds_of_order?_none (ho.trans hc) op
  | some o =>
    have hn : ¬ (x.isNaN ∨ y.isNaN) := fun h => by
      rw [compare_eq_none_iff.mpr h] at hc
      cases hc
    have heq : (x == y) = (o == .eq) := by
      change (x.toModel.unpack.compare y.toModel.unpack == some .eq) = _
      rw [hc]
      rfl
    rw [if_neg hn]
    simp only [Comparison.holds, ho, hc, related, lt_iff, le_iff,
      compare_swap (u := x.toModel.unpack) (v := y.toModel.unpack), bne, heq]
    cases op <;> cases o <;> rfl

theorem holds_texts (op : Comparison) (s t : String) :
    op.holds (.str s) (.str t) = .ok (related s t op) := by
  unfold Comparison.holds
  rw [order?_str]
  rcases Std.lt_trichotomy s t with h | rfl | h
  · have hne : s ≠ t := fun he => String.lt_irrefl t (he ▸ h)
    cases op <;> simp [related, bne, h, hne, ← String.not_lt, String.lt_asymm h]
  · cases op <;> simp [related]
  · have hne : s ≠ t := fun he => String.lt_irrefl t (he ▸ h)
    cases op <;> simp [related, bne, h, hne, ← String.not_lt, String.lt_asymm h]

theorem holds_eq (op : Comparison) (a b : Value) : op.holds a b = comparison op a b := by
  unfold comparison
  split
  · exact holds_texts op _ _
  · next hs =>
    split
    · next ha hb => exact holds_numbers ha hb op
    · next hn =>
      apply holds_of_order?_none
      apply order?_of_others
      · cases ha : number? a with
        | none => exact .inl rfl
        | some x => exact .inr (Option.eq_none_iff_forall_ne_some.mpr fun y hb => hn x y ha hb)
      · rintro s t ⟨rfl, rfl⟩
        exact hs s t rfl rfl

theorem choose_eq (op : Connective) (a b : Value) : op.choose a b = connective op a b := by
  cases op <;> exact if_congr (truthy_iff a) rfl rfl

theorem binary_eq (op : Binary) (a b : Value) : op.apply a b = binary op a b := by
  cases op with
  | arithmetic op => exact apply_eq op a b
  | connective op => exact congrArg Except.ok (choose_eq op a b)

theorem sign_eq (sign : Sign) (a : Value) : sign.apply a = signed sign a := by
  unfold Sign.apply signed
  rw [number?_eq]
  cases number? a with
  | none => rfl
  | some x => cases sign <;> rfl

end Showrunner.Expression.Meaning
