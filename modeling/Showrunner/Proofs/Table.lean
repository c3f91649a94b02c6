import Mathlib.Data.List.Sort
import Showrunner.Table

namespace Showrunner.Table

variable {α : Type} {t u : Table α} {k : String} {v : α}

theorem mem_iff_lookup {es : List (String × α)} (h : es.Pairwise fun a b => a.1 < b.1) :
    (k, v) ∈ es ↔ es.lookup k = some v := by
  induction es with
  | nil => simp
  | cons e es ih =>
    obtain ⟨n, w⟩ := e
    obtain ⟨hn, hes⟩ := List.pairwise_cons.mp h
    rw [lookup_cons, List.mem_cons, ih hes]
    by_cases hk : k = n
    · -- names further on are greater, so that this one is not among them
      subst hk
      have hl : es.lookup k = none :=
        List.lookup_eq_none_iff.mpr fun e he => by simpa using String.ne_of_lt (hn e he)
      simp [hl, eq_comm]
    · simp [hk]

@[ext]
theorem ext (h : ∀ k, t.get? k = u.get? k) : t = u := by
  obtain ⟨es, hes⟩ := t
  obtain ⟨fs, hfs⟩ := u
  congr 1
  have hirrefl : Std.Irrefl fun a b : String × α => a.1 < b.1 := ⟨fun a => String.lt_irrefl a.1⟩
  have hasymm : Std.Antisymm fun a b : String × α => a.1 < b.1 :=
    ⟨fun a b h k => absurd h (String.lt_asymm k)⟩
  refine hes.eq_of_mem_iff hfs fun e => ?_
  rw [mem_iff_lookup hes, mem_iff_lookup hfs]
  exact Eq.congr_left (h e.1)

theorem contains_insert (t : Table α) (k j : String) (v : α) :
    (t.insert k v).contains j = (decide (j = k) || t.contains j) := by
  unfold contains
  rw [get?_insert]
  by_cases h : j = k <;> simp [h]

theorem contains_erase (t : Table α) (k j : String) :
    (t.erase k).contains j = (!decide (j = k) && t.contains j) := by
  unfold contains
  rw [get?_erase]
  by_cases h : j = k <;> simp [h]

theorem insert_eq_self (h : t.get? k = some v) : t.insert k v = t := by
  ext1 j
  rw [get?_insert]
  split
  · next hj => rw [hj, h]
  · rfl

theorem modify_eq_self {f : α → α} (h : ∀ v, t.get? k = some v → f v = v) : t.modify k f = t := by
  ext1 j
  rw [get?_modify]
  split
  · next hj =>
    subst hj
    cases hv : t.get? j with
    | none => rfl
    | some v => rw [Option.map_some, h v hv]
  · rfl

theorem modify_modify (t : Table α) (k : String) (f g : α → α) :
    (t.modify k f).modify k g = t.modify k (g ∘ f) := by
  ext1 j
  rw [get?_modify, get?_modify, get?_modify]
  split
  · exact Option.map_map g f _
  · rfl

theorem insert_erase (t : Table α) (k : String) (v : α) :
    (t.erase k).insert k v = t.insert k v := by
  ext1 j
  rw [get?_insert, get?_insert, get?_erase]
  split <;> rfl

end Showrunner.Table
