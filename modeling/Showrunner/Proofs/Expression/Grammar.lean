import Showrunner.Expression.Reader

namespace Showrunner.Expression

def Level.rank : Level → Nat
  | .disjunction => 0
  | .conjunction => 1
  | .negation => 2
  | .comparison => 3
  | .sum => 4
  | .product => 5
  | .sign => 6
  | .power => 7
  | .atom => 8

def Level.groupsLeft : Level → Bool
  | .disjunction | .conjunction | .sum | .product => true
  | _ => false

/-- The level of the operation that a token between two operands asks for. -/
def Token.joint? (t : Token) : Option Level :=
  (t.binary?.map Binary.level).or (t.comparison?.map fun _ => .comparison)

def Token.operand? : Token → Option Value
  | .num x => some (.num x)
  | .str s => some (.str s)
  | .word w => if (Token.word w).isNot then none else some (wordValue w)
  | _ => none

/-- The tokens go on with none that an operand of the level would take in. -/
def Stops (level : Level) (ts : List Token) : Prop :=
  ∀ t ∈ ts.head?, ∀ k ∈ t.joint?, k.rank < level.rank

mutual

/-- An expression of a level stands at the front of some tokens, with others after it. -/
inductive Reads : Level → List Token → Tree → List Token → Prop
  | not {t : Token} {r s : List Token} {e : Tree} (ht : t.isNot) (h : Reads .negation r e s) :
    Reads .negation (t :: r) (.not e) s
  | positive {ts s : List Token} {e : Tree} (ht : ∀ t ∈ ts.head?, t.isNot = false)
    (h : Reads .comparison ts e s) : Reads .negation ts e s
  | chain {ts r s : List Token} {first : Tree} {ls : Links} (h : Reads .sum ts first r)
    (hl : ReadsLinks r ls s) : Reads .comparison ts (chainOf first ls) s
  | signed {t : Token} {sign : Sign} {r s : List Token} {e : Tree} (ht : t.sign? = some sign)
    (h : Reads .sign r e s) : Reads .sign (t :: r) (.signed sign e) s
  | unsigned {ts s : List Token} {e : Tree} (ht : ∀ t ∈ ts.head?, t.sign? = none)
    (h : Reads .power ts e s) : Reads .sign ts e s
  | raised {ts r s : List Token} {base e : Tree}
    (h : Reads .atom ts base (.operator (.binary (.arithmetic .power)) :: r))
    (he : Reads .sign r e s) : Reads .power ts (.binary (.arithmetic .power) base e) s
  | base {ts s : List Token} {e : Tree}
    (hs : ∀ t ∈ s.head?, t ≠ .operator (.binary (.arithmetic .power)))
    (h : Reads .atom ts e s) : Reads .power ts e s
  | literal {t : Token} {v : Value} {r : List Token} (ht : t.operand? = some v) :
    Reads .atom (t :: r) (.literal v) r
  | group {r s : List Token} {e : Tree} (h : Reads .disjunction r e (.closing :: s)) :
    Reads .atom (.opening :: r) e s
  | left {level : Level} {ts r s : List Token} {first e : Tree} (hl : level.groupsLeft)
    (h : Reads level.tighter ts first r) (hf : ReadsFurther level first r e s) :
    Reads level ts e s

inductive ReadsFurther : Level → Tree → List Token → Tree → List Token → Prop
  | more {level : Level} {left right e : Tree} {t : Token} {op : Binary} {r s u : List Token}
    (ht : t.leftOperator? level = some op) (h : Reads level.tighter r right s)
    (hf : ReadsFurther level (.binary op left right) s e u) :
    ReadsFurther level left (t :: r) e u
  | stop {level : Level} {left : Tree} {ts : List Token}
    (ht : ∀ t ∈ ts.head?, t.leftOperator? level = none) : ReadsFurther level left ts left ts

inductive ReadsLinks : List Token → Links → List Token → Prop
  | more {t : Token} {op : Comparison} {r s u : List Token} {e : Tree} {ls : Links}
    (ht : t.comparison? = some op) (h : Reads .sum r e s) (hl : ReadsLinks s ls u) :
    ReadsLinks (t :: r) (.cons op e ls) u
  | stop {ts : List Token} (ht : ∀ t ∈ ts.head?, t.comparison? = none) : ReadsLinks ts .nil ts

end

mutual

theorem Reads.length_lt {level : Level} {ts s : List Token} {e : Tree} :
    Reads level ts e s → s.length < ts.length
  | .not _ h => by
    have := h.length_lt
    rw [List.length_cons]
    omega
  | .positive _ h => h.length_lt
  | .chain h hl => by
    have := h.length_lt
    have := hl.length_le
    omega
  | .signed _ h => by
    have := h.length_lt
    rw [List.length_cons]
    omega
  | .unsigned _ h => h.length_lt
  | .raised h he => by
    have := h.length_lt
    have := he.length_lt
    rw [List.length_cons] at *
    omega
  | .base _ h => h.length_lt
  | .literal _ => by simp
  | .group h => by
    have := h.length_lt
    rw [List.length_cons] at *
    omega
  | .left _ h hf => by
    have := h.length_lt
    have := hf.length_le
    omega

theorem ReadsFurther.length_le {level : Level} {left : Tree} {ts s : List Token} {e : Tree} :
    ReadsFurther level left ts e s → s.length ≤ ts.length
  | .more _ h hf => by
    have := h.length_lt
    have := hf.length_le
    rw [List.length_cons]
    omega
  | .stop _ => Nat.le_refl _

theorem ReadsLinks.length_le {ts s : List Token} {ls : Links} :
    ReadsLinks ts ls s → s.length ≤ ts.length
  | .more _ h hl => by
    have := h.length_lt
    have := hl.length_le
    rw [List.length_cons]
    omega
  | .stop _ => Nat.le_refl _

end

/-- A depth that reading some tokens at a level does not reach. -/
def depth (level : Level) (ts : List Token) : Nat := 10 * ts.length + (9 - level.rank)

theorem Level.rank_lt (level : Level) : level.rank < 9 := by cases level <;> decide

theorem Level.rank_injective {k level : Level} (h : k.rank = level.rank) : k = level := by
  cases k <;> cases level <;> first | rfl | cases h

theorem Level.rank_tighter {level : Level} (h : level.groupsLeft) :
    level.tighter.rank = level.rank + 1 := by
  cases level <;> first | rfl | cases h

mutual

/-- The reader finds what stands at the front of the tokens, if it may go deep enough. -/
theorem Reads.operand_eq {level : Level} {ts s : List Token} {e : Tree} {n : Nat}
    (h : Reads level ts e s) (hn : depth level ts ≤ n) : operand n level ts = (e, s) := by
  unfold depth at hn
  obtain ⟨n, rfl⟩ : ∃ m, n = m + 1 := ⟨n - 1, by have := level.rank_lt; omega⟩
  cases h with
  | not ht h =>
    have := h.operand_eq (n := n) (by rw [List.length_cons] at hn; unfold depth; omega)
    simp [operand, ht, this]
  | positive ht h =>
    have := h.operand_eq (n := n) (by unfold depth; simp only [Level.rank] at *; omega)
    cases ts with
    | nil => simp [operand, this]
    | cons t r => simp [operand, ht t rfl, this]
  | chain h hl =>
    have hr := h.length_lt
    have := h.operand_eq (n := n) (by unfold depth; simp only [Level.rank] at *; omega)
    have := hl.links_eq (n := n) (by omega)
    simp [operand, *]
  | signed ht h =>
    have := h.operand_eq (n := n) (by rw [List.length_cons] at hn; unfold depth; omega)
    simp [operand, ht, this]
  | unsigned ht h =>
    have := h.operand_eq (n := n) (by unfold depth; simp only [Level.rank] at *; omega)
    cases ts with
    | nil => simp [operand, this]
    | cons t r => simp [operand, ht t rfl, this]
  | raised h he =>
    have hr := h.length_lt
    rw [List.length_cons] at hr
    have := h.operand_eq (n := n) (by unfold depth; simp only [Level.rank] at *; omega)
    have := he.operand_eq (n := n) (by unfold depth; simp only [Level.rank] at *; omega)
    simp [operand, *]
  | base hs h =>
    have := h.operand_eq (n := n) (by unfold depth; simp only [Level.rank] at *; omega)
    unfold operand
    rw [this]
    split
    · next he =>
      cases he
      exact absurd rfl (hs _ rfl)
    · rfl
  | @literal t v r ht =>
    cases t with
    | num x => cases ht; rfl
    | str x => cases ht; rfl
    | word w =>
      unfold Token.operand? at ht
      dsimp only at ht
      split at ht
      · cases ht
      · cases ht; rfl
    | operator op => cases ht
    | opening => cases ht
    | closing => cases ht
  | group h =>
    rw [List.length_cons] at hn
    have := h.operand_eq (n := n) (by unfold depth; simp only [Level.rank] at *; omega)
    simp [operand, this]
  | left hl h hf =>
    have hr := h.length_lt
    have ht := Level.rank_tighter hl
    have := level.tighter.rank_lt
    have := h.operand_eq (n := n) (by unfold depth; omega)
    have := hf.further_eq (n := n) (by unfold depth; omega)
    cases level with
    | disjunction | conjunction | sum | product => simp [operand, *]
    | negation | comparison | sign | power | atom => cases hl
termination_by n

theorem ReadsFurther.further_eq {level : Level} {left e : Tree} {ts s : List Token} {n : Nat}
    (h : ReadsFurther level left ts e s) (hn : depth level ts ≤ n) :
    further n level left ts = (e, s) := by
  unfold depth at hn
  obtain ⟨n, rfl⟩ : ∃ m, n = m + 1 := ⟨n - 1, by have := level.rank_lt; omega⟩
  cases h with
  | more ht h hf =>
    have hr := h.length_lt
    rw [List.length_cons] at hn
    have := h.operand_eq (n := n) (by unfold depth; omega)
    have := hf.further_eq (n := n) (by unfold depth; omega)
    simp [further, *]
  | stop ht =>
    cases ts with
    | nil => simp [further]
    | cons t r => simp [further, ht t rfl]
termination_by n

theorem ReadsLinks.links_eq {ts s : List Token} {ls : Links} {n : Nat}
    (h : ReadsLinks ts ls s) (hn : 10 * ts.length ≤ n) : links n ts = (ls, s) := by
  cases h with
  | more ht h hl =>
    have hr := h.length_lt
    rw [List.length_cons] at hn
    obtain ⟨n, rfl⟩ : ∃ m, n = m + 1 := ⟨n - 1, by omega⟩
    have := h.operand_eq (n := n) (by unfold depth; simp only [Level.rank]; omega)
    have := hl.links_eq (n := n) (by omega)
    simp [links, *]
  | stop ht =>
    cases ts with
    | nil => cases n <;> simp [links]
    | cons t r => cases n <;> simp [links, ht t rfl]
termination_by n

end

variable {level k : Level} {ts s : List Token} {e : Tree}

namespace Stops

theorem mono (h : Stops level ts) (hk : level.rank ≤ k.rank) : Stops k ts :=
  fun t ht j hj => Nat.lt_of_lt_of_le (h t ht j hj) hk

theorem leftOperator?_eq_none (h : Stops level ts) :
    ∀ t ∈ ts.head?, t.leftOperator? level = none := by
  intro t ht
  cases ho : t.leftOperator? level with
  | none => rfl
  | some op =>
    obtain ⟨hb, hl⟩ := Option.filter_eq_some_iff.mp ho
    have hj : level ∈ t.joint? := by
      simp only [Bool.and_eq_true, beq_iff_eq] at hl
      simp [Token.joint?, hb, hl.1]
    exact absurd (h t ht level hj) (Nat.lt_irrefl _)

theorem comparison?_eq_none (h : Stops .comparison ts) :
    ∀ t ∈ ts.head?, t.comparison? = none := by
  intro t ht
  cases ho : t.comparison? with
  | none => rfl
  | some op =>
    obtain ⟨op, rfl⟩ : ∃ op, t = .operator (.comparison op) := by
      unfold Token.comparison? at ho
      split at ho
      · exact ⟨_, rfl⟩
      · cases ho
    exact absurd (h _ ht .comparison rfl) (Nat.lt_irrefl _)

theorem ne_power (h : Stops .power ts) :
    ∀ t ∈ ts.head?, t ≠ .operator (.binary (.arithmetic .power)) := by
  rintro t ht rfl
  exact absurd (h _ ht .power rfl) (Nat.lt_irrefl _)

end Stops

theorem Reads.head {level : Level} {ts s : List Token} {e : Tree} : Reads level ts e s →
    (2 < level.rank → ∀ t ∈ ts.head?, t.isNot = false) ∧
      (6 < level.rank → ∀ t ∈ ts.head?, t.sign? = none)
  | .not _ _ => by simp [Level.rank]
  | .positive _ _ => by simp [Level.rank]
  | .chain h _ => ⟨fun _ => h.head.1 (by decide), by simp [Level.rank]⟩
  | @Reads.signed t sign r s e ht _ => by
    have hn : t.isNot = false := by
      unfold Token.sign? at ht
      split at ht
      · rfl
      · rfl
      · cases ht
    exact ⟨fun _ u hu => by cases hu; exact hn, by simp [Level.rank]⟩
  | .unsigned _ h => ⟨fun _ => h.head.1 (by decide), by simp [Level.rank]⟩
  | .raised h _ => ⟨fun _ => h.head.1 (by decide), fun _ => h.head.2 (by decide)⟩
  | .base _ h => ⟨fun _ => h.head.1 (by decide), fun _ => h.head.2 (by decide)⟩
  | @Reads.literal t v r ht => by
    have hn : t.isNot = false ∧ t.sign? = none := by
      cases t with
      | num | str => exact ⟨rfl, rfl⟩
      | word w =>
        refine ⟨?_, rfl⟩
        simpa [Token.operand?] using Option.isSome_of_eq_some ht
      | operator | opening | closing => cases ht
    exact ⟨fun _ u hu => by cases hu; exact hn.1, fun _ u hu => by cases hu; exact hn.2⟩
  | .group _ => ⟨fun _ t ht => by cases ht; rfl, fun _ t ht => by cases ht; rfl⟩
  | .left hl h _ => by
    have hr := Level.rank_tighter hl
    exact ⟨fun hn => h.head.1 (by omega), fun hn => h.head.2 (by omega)⟩

/-- What is read at a level is read at the next looser one too, if nothing of that follows. -/
theorem Reads.loosen (h : Reads level.tighter ts e s) (hs : Stops level s) :
    Reads level ts e s := by
  cases level with
  | disjunction | conjunction | sum | product => exact .left rfl h (.stop hs.leftOperator?_eq_none)
  | negation => exact .positive (h.head.1 (by decide)) h
  | comparison => exact .chain h (.stop hs.comparison?_eq_none)
  | sign => exact .unsigned (h.head.2 (by decide)) h
  | power => exact .base hs.ne_power h
  | atom => exact h

theorem Reads.loosen_to (h : Reads k ts e s) (hk : level.rank ≤ k.rank) (hs : Stops level s) :
    Reads level ts e s := by
  induction hd : k.rank - level.rank generalizing level with
  | zero =>
    have hl : level.rank = k.rank := by omega
    rwa [Level.rank_injective hl]
  | succ d ih =>
    have ht : level.tighter.rank = level.rank + 1 := by
      have := k.rank_lt
      cases level <;> first | rfl | (simp only [Level.rank] at *; omega)
    exact (ih (by omega) (hs.mono (by omega)) (by omega)).loosen hs

end Showrunner.Expression
