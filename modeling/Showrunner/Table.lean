namespace Showrunner

/-- A finite map from names, held in the order of the names. -/
structure Table (α : Type) where
  entries : List (String × α)
  ordered : entries.Pairwise fun a b => a.1 < b.1

namespace Table

variable {α : Type}

def empty : Table α := ⟨[], .nil⟩

instance : Inhabited (Table α) := ⟨empty⟩

def get? (t : Table α) (k : String) : Option α := t.entries.lookup k

def contains (t : Table α) (k : String) : Bool := (t.get? k).isSome

def keys (t : Table α) : List String := t.entries.map (·.1)

/-- The entry takes its place in the order, or replaces the entry of the same name. -/
def insertEntry (k : String) (v : α) : List (String × α) → List (String × α)
  | [] => [(k, v)]
  | e :: es =>
    if k < e.1 then (k, v) :: e :: es
    else if k = e.1 then (k, v) :: es
    else e :: insertEntry k v es

theorem mem_insertEntry {k : String} {v : α} {a : String × α} {es : List (String × α)}
    (h : a ∈ insertEntry k v es) : a = (k, v) ∨ a ∈ es := by
  induction es with
  | nil => simpa [insertEntry] using h
  | cons e es ih =>
    rw [insertEntry] at h
    split at h
    · simpa using h
    · split at h
      · rcases List.mem_cons.1 h with h | h
        · exact .inl h
        · exact .inr (List.mem_cons_of_mem _ h)
      · rcases List.mem_cons.1 h with h | h
        · exact .inr (h ▸ List.mem_cons_self)
        · exact (ih h).imp id (List.mem_cons_of_mem _)

theorem pairwise_insertEntry (k : String) (v : α) {es : List (String × α)}
    (h : es.Pairwise fun a b => a.1 < b.1) :
    (insertEntry k v es).Pairwise fun a b => a.1 < b.1 := by
  induction es with
  | nil => simp [insertEntry]
  | cons e es ih =>
    have ⟨he, hes⟩ := List.pairwise_cons.1 h
    rw [insertEntry]
    split
    · next hk =>
      refine List.pairwise_cons.2 ⟨fun a ha => ?_, h⟩
      rcases List.mem_cons.1 ha with rfl | ha
      · exact hk
      · exact String.lt_trans hk (he a ha)
    · next hk =>
      split
      · next hk' => exact List.pairwise_cons.2 ⟨fun a ha => by simpa [hk'] using he a ha, hes⟩
      · next hk' =>
        refine List.pairwise_cons.2 ⟨fun a ha => ?_, ih hes⟩
        rcases mem_insertEntry ha with rfl | ha
        · exact Classical.byContradiction fun hn =>
            hk' (String.le_antisymm (String.not_lt.1 hn) (String.not_lt.1 hk))
        · exact he a ha

def insert (t : Table α) (k : String) (v : α) : Table α :=
  ⟨insertEntry k v t.entries, pairwise_insertEntry k v t.ordered⟩

def filter (t : Table α) (p : String → α → Bool) : Table α :=
  ⟨t.entries.filter fun e => p e.1 e.2, t.ordered.filter _⟩

def erase (t : Table α) (k : String) : Table α := t.filter fun j _ => j != k

def modify (t : Table α) (k : String) (f : α → α) : Table α :=
  ⟨t.entries.map fun e => if e.1 = k then (e.1, f e.2) else e, by
    refine List.pairwise_map.2 (t.ordered.imp fun {a b} h => ?_)
    split <;> split <;> exact h⟩

def size (t : Table α) : Nat := t.entries.length

theorem lookup_cons (j k : String) (v : α) (es : List (String × α)) :
    List.lookup j ((k, v) :: es) = if j = k then some v else es.lookup j := by
  by_cases h : j = k
  · simp [h]
  · have hb : (j == k) = false := by simpa using h
    simp [List.lookup_cons, hb, h]

theorem lookup_insertEntry (k j : String) (v : α) (es : List (String × α)) :
    (insertEntry k v es).lookup j = if j = k then some v else es.lookup j := by
  induction es with
  | nil => simp [insertEntry, lookup_cons]
  | cons e es ih =>
    obtain ⟨n, w⟩ := e
    simp only [insertEntry]
    split
    · rw [lookup_cons]
    · split
      · next hk =>
        subst hk
        rw [lookup_cons, lookup_cons]
        split <;> rfl
      · next hk =>
        rw [lookup_cons, lookup_cons, ih]
        by_cases h : j = n
        · simp [h, Ne.symm hk]
        · simp [h]

theorem get?_insert (t : Table α) (k j : String) (v : α) :
    (t.insert k v).get? j = if j = k then some v else t.get? j :=
  lookup_insertEntry k j v t.entries

theorem lookup_filter (p : String → α → Bool) (k : String) {es : List (String × α)}
    (h : es.Pairwise fun a b => a.1 < b.1) :
    (es.filter fun e => p e.1 e.2).lookup k = (es.lookup k).filter (p k) := by
  induction es with
  | nil => rfl
  | cons e es ih =>
    obtain ⟨n, w⟩ := e
    obtain ⟨hn, hes⟩ := List.pairwise_cons.1 h
    have ih := ih hes
    rw [lookup_cons, List.filter_cons]
    by_cases hk : k = n
    · -- names further on are greater, so no other entry has this one
      subst hk
      have hl : es.lookup k = none :=
        List.lookup_eq_none_iff.2 fun e he => by simpa using (String.ne_of_lt (hn e he))
      rw [if_pos rfl, Option.filter_some]
      split
      · rw [lookup_cons, if_pos rfl]
      · rw [ih, hl]
        rfl
    · rw [if_neg hk, ← ih]
      split
      · rw [lookup_cons, if_neg hk]
      · rfl

theorem get?_filter (t : Table α) (p : String → α → Bool) (k : String) :
    (t.filter p).get? k = (t.get? k).filter (p k) :=
  lookup_filter p k t.ordered
theorem get?_erase (t : Table α) (k j : String) :
    (t.erase k).get? j = if j = k then none else t.get? j := by
  rw [erase, get?_filter]
  by_cases h : j = k
  · simp [h]
  · cases t.get? j <;> simp [h]

theorem lookup_modifyEntry (k j : String) (f : α → α) (es : List (String × α)) :
    (es.map fun e => if e.1 = k then (e.1, f e.2) else e).lookup j =
      if j = k then (es.lookup j).map f else es.lookup j := by
  induction es with
  | nil => simp
  | cons e es ih =>
    obtain ⟨n, w⟩ := e
    rw [List.map_cons, lookup_cons]
    by_cases hk : n = k
    · rw [if_pos hk, lookup_cons, ih, hk]
      split <;> rfl
    · rw [if_neg hk, lookup_cons, ih]
      by_cases h : j = n
      · simp [h, hk]
      · simp [h]

theorem get?_modify (t : Table α) (k j : String) (f : α → α) :
    (t.modify k f).get? j = if j = k then (t.get? j).map f else t.get? j :=
  lookup_modifyEntry k j f t.entries

theorem contains_modify (t : Table α) (k j : String) (f : α → α) :
    (t.modify k f).contains j = t.contains j := by
  unfold contains
  rw [get?_modify]
  split <;> simp

end Table
end Showrunner
