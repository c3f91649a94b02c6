import Showrunner.Proofs.Expression.Grammar

namespace Showrunner.Expression

variable {n : Nat} {level : Level} {t : Token} {ts r : List Token}

def powerToken : Token := .operator (.binary (.arithmetic .power))

theorem head_cases (p : Token → Prop) (ts : List Token) :
    (∃ t r, ts = t :: r ∧ p t) ∨ ∀ t ∈ ts.head?, ¬ p t := by
  cases ts with
  | nil => exact .inr fun _ h => by cases h
  | cons t r =>
    by_cases ht : p t
    · exact .inl ⟨t, r, rfl, ht⟩
    · exact .inr fun _ h => by cases h; exact ht

section

theorem operand_left (hl : level.groupsLeft) :
    operand (n + 1) level ts =
      further n level (operand n level.tighter ts).1 (operand n level.tighter ts).2 := by
  cases level <;> first | rfl | cases hl

theorem operand_not (ht : t.isNot) :
    operand (n + 1) .negation (t :: r) =
      (.not (operand n .negation r).1, (operand n .negation r).2) := by
  simp [operand, ht]

theorem operand_positive (ht : ∀ t ∈ ts.head?, t.isNot = false) :
    operand (n + 1) .negation ts = operand n .comparison ts := by
  cases ts with
  | nil => rfl
  | cons t r => simp [operand, ht t rfl]

theorem operand_comparison :
    operand (n + 1) .comparison ts =
      (chainOf (operand n .sum ts).1 (links n (operand n .sum ts).2).1,
        (links n (operand n .sum ts).2).2) := rfl

theorem operand_signed {sign : Sign} (ht : t.sign? = some sign) :
    operand (n + 1) .sign (t :: r) =
      (.signed sign (operand n .sign r).1, (operand n .sign r).2) := by
  simp [operand, ht]

theorem operand_unsigned (ht : ∀ t ∈ ts.head?, t.sign? = none) :
    operand (n + 1) .sign ts = operand n .power ts := by
  cases ts with
  | nil => rfl
  | cons t r => simp [operand, ht t rfl]

theorem operand_raised {base : Tree} (h : operand n .atom ts = (base, powerToken :: r)) :
    operand (n + 1) .power ts =
      (.binary (.arithmetic .power) base (operand n .sign r).1, (operand n .sign r).2) := by
  rw [operand, h]
  rfl

theorem operand_base (h : ∀ t ∈ (operand n .atom ts).2.head?, t ≠ powerToken) :
    operand (n + 1) .power ts = operand n .atom ts := by
  rw [operand]
  split
  · next he =>
    rw [he] at h
    exact absurd rfl (h _ rfl)
  · rfl

def closeGroup : Tree × List Token → Tree × List Token
  | (e, .closing :: s) => (e, s)
  | (e, _) => (.unclosed e, [])

theorem length_closeGroup_le (p : Tree × List Token) :
    (closeGroup p).2.length ≤ p.2.length := by
  unfold closeGroup
  split
  · exact Nat.le_succ _
  · exact Nat.zero_le _

theorem operand_group :
    operand (n + 1) .atom (.opening :: r) = closeGroup (operand n .disjunction r) := rfl

theorem further_more {left : Tree} {op : Binary} (ht : t.leftOperator? level = some op) :
    further (n + 1) level left (t :: r) =
      further n level (.binary op left (operand n level.tighter r).1)
        (operand n level.tighter r).2 := by
  simp [further, ht]

theorem further_stop {left : Tree} (ht : ∀ t ∈ ts.head?, t.leftOperator? level = none) :
    further n level left ts = (left, ts) := by
  cases n with
  | zero => rfl
  | succ n =>
    cases ts with
    | nil => rfl
    | cons t r => simp [further, ht t rfl]

theorem links_more {op : Comparison} (ht : t.comparison? = some op) :
    links (n + 1) (t :: r) =
      (.cons op (operand n .sum r).1 (links n (operand n .sum r).2).1,
        (links n (operand n .sum r).2).2) := by
  simp [links, ht]

theorem links_stop (ht : ∀ t ∈ ts.head?, t.comparison? = none) : links n ts = (.nil, ts) := by
  cases n with
  | zero => rfl
  | succ n =>
    cases ts with
    | nil => rfl
    | cons t r => simp [links, ht t rfl]

end

mutual

theorem length_operand : (n : Nat) → (level : Level) → (ts : List Token) →
    (operand n level ts).2.length ≤ ts.length - 1
  | 0, _, _ => Nat.zero_le _
  | n + 1, .disjunction, ts | n + 1, .conjunction, ts | n + 1, .sum, ts
  | n + 1, .product, ts => by
    rw [operand_left rfl]
    exact Nat.le_trans (length_further n _ _ _) (length_operand n _ ts)
  | n + 1, .negation, ts => by
    obtain ⟨t, r, rfl, ht⟩ | ht := head_cases (fun t => t.isNot) ts
    · rw [operand_not ht]
      exact Nat.le_trans (length_operand n .negation r) (Nat.sub_le _ _)
    · rw [operand_positive fun t h => Bool.eq_false_iff.mpr (ht t h)]
      exact length_operand n .comparison ts
  | n + 1, .comparison, ts => by
    rw [operand_comparison]
    exact Nat.le_trans (length_links n _) (length_operand n .sum ts)
  | n + 1, .sign, ts => by
    obtain ⟨t, r, rfl, ht⟩ | ht := head_cases (fun t => t.sign?.isSome) ts
    · obtain ⟨sign, ht⟩ := Option.isSome_iff_exists.mp ht
      rw [operand_signed ht]
      exact Nat.le_trans (length_operand n .sign r) (Nat.sub_le _ _)
    · rw [operand_unsigned fun t h => Option.not_isSome_iff_eq_none.mp (ht t h)]
      exact length_operand n .power ts
  | n + 1, .power, ts => by
    have ha := length_operand n .atom ts
    obtain ⟨t, r, he, rfl⟩ | ht := head_cases (· = powerToken) (operand n .atom ts).2
    · rw [operand_raised (Prod.ext rfl he)]
      have hs := length_operand n .sign r
      rw [he, List.length_cons] at ha
      dsimp only
      omega
    · rw [operand_base ht]
      exact ha
  | n + 1, .atom, [] => Nat.le_refl _
  | n + 1, .atom, .opening :: r => by
    have hr := length_operand n .disjunction r
    have hg := length_closeGroup_le (operand n .disjunction r)
    rw [operand_group, List.length_cons]
    omega
  | n + 1, .atom, .num _ :: r | n + 1, .atom, .str _ :: r | n + 1, .atom, .word _ :: r =>
    Nat.le_refl _
  | n + 1, .atom, .operator _ :: r | n + 1, .atom, .closing :: r => Nat.zero_le _

theorem length_further : (n : Nat) → (level : Level) → (left : Tree) → (ts : List Token) →
    (further n level left ts).2.length ≤ ts.length
  | 0, _, _, _ => Nat.le_refl _
  | n + 1, level, left, [] => Nat.le_refl _
  | n + 1, level, left, t :: r => by
    cases ht : t.leftOperator? level with
    | none =>
      exact Nat.le_of_eq (by rw [further_stop (by rintro _ ⟨⟩; exact ht)])
    | some op =>
      have := length_operand n level.tighter r
      have := length_further n level (.binary op left (operand n level.tighter r).1)
        (operand n level.tighter r).2
      rw [further_more ht, List.length_cons]
      omega

theorem length_links : (n : Nat) → (ts : List Token) → (links n ts).2.length ≤ ts.length
  | 0, _ => Nat.le_refl _
  | n + 1, [] => Nat.le_refl _
  | n + 1, t :: r => by
    cases ht : t.comparison? with
    | none =>
      exact Nat.le_of_eq (by rw [links_stop (by rintro _ ⟨⟩; exact ht)])
    | some op =>
      have := length_operand n .sum r
      have := length_links n (operand n .sum r).2
      rw [links_more ht, List.length_cons]
      dsimp only
      omega

end

theorem depth_pos (level : Level) (ts : List Token) : 0 < depth level ts := by
  have := level.rank_lt
  unfold depth
  omega

theorem depth_le (level : Level) (ts : List Token) : depth level ts ≤ 10 * ts.length + 9 := by
  unfold depth
  omega

section

variable {m : Nat} {k : Level}

theorem depth_tighter_le (hl : level ≠ .atom) (h : depth level ts ≤ n + 1) :
    depth level.tighter ts ≤ n := by
  have hr : level.tighter.rank = level.rank + 1 := by
    cases level <;> first | rfl | exact absurd rfl hl
  have := level.tighter.rank_lt
  unfold depth at *
  omega

theorem depth_tail_le (h : depth level (t :: r) ≤ n + 1) : depth k r ≤ n := by
  have := level.rank_lt
  unfold depth at *
  rw [List.length_cons] at h
  omega

theorem length_rest_le (h : depth level ts ≤ n + 1) :
    10 * (operand m k ts).2.length ≤ n := by
  have := length_operand m k ts
  have := level.rank_lt
  unfold depth at h
  omega

end

mutual

/-- Every depth that is enough gives the same reading. -/
theorem operand_congr : (n m : Nat) → (level : Level) → (ts : List Token) →
    depth level ts ≤ n → depth level ts ≤ m → operand n level ts = operand m level ts
  | 0, m, level, ts, hn, _ => absurd (depth_pos level ts) (by omega)
  | n + 1, 0, level, ts, _, hm => absurd (depth_pos level ts) (by omega)
  | n + 1, m + 1, .disjunction, ts, hn, hm | n + 1, m + 1, .conjunction, ts, hn, hm
  | n + 1, m + 1, .sum, ts, hn, hm | n + 1, m + 1, .product, ts, hn, hm => by
    have ht := operand_congr n m _ ts (depth_tighter_le (by decide) hn)
      (depth_tighter_le (by decide) hm)
    rw [operand_left rfl, operand_left rfl, ht]
    exact further_congr n m _ _ _ (length_rest_le hn) (length_rest_le hm)
  | n + 1, m + 1, .negation, ts, hn, hm => by
    obtain ⟨t, r, rfl, ht⟩ | ht := head_cases (fun t => t.isNot) ts
    · rw [operand_not ht, operand_not ht,
        operand_congr n m .negation r (depth_tail_le hn) (depth_tail_le hm)]
    · have hp := fun t h => Bool.eq_false_iff.mpr (ht t h)
      rw [operand_positive hp, operand_positive hp]
      exact operand_congr n m .comparison ts (depth_tighter_le (by decide) hn)
        (depth_tighter_le (by decide) hm)
  | n + 1, m + 1, .comparison, ts, hn, hm => by
    have hs := operand_congr n m .sum ts (depth_tighter_le (by decide) hn)
      (depth_tighter_le (by decide) hm)
    rw [operand_comparison, operand_comparison, hs,
      links_congr n m _ (length_rest_le hn) (length_rest_le hm)]
  | n + 1, m + 1, .sign, ts, hn, hm => by
    obtain ⟨t, r, rfl, ht⟩ | ht := head_cases (fun t => t.sign?.isSome) ts
    · obtain ⟨sign, ht⟩ := Option.isSome_iff_exists.mp ht
      rw [operand_signed ht, operand_signed ht,
        operand_congr n m .sign r (depth_tail_le hn) (depth_tail_le hm)]
    · have hp := fun t h => Option.not_isSome_iff_eq_none.mp (ht t h)
      rw [operand_unsigned hp, operand_unsigned hp]
      exact operand_congr n m .power ts (depth_tighter_le (by decide) hn)
        (depth_tighter_le (by decide) hm)
  | n + 1, m + 1, .power, ts, hn, hm => by
    have ha := operand_congr n m .atom ts (depth_tighter_le (by decide) hn)
      (depth_tighter_le (by decide) hm)
    obtain ⟨t, r, he, rfl⟩ | ht := head_cases (· = powerToken) (operand m .atom ts).2
    · have hl := length_operand m .atom ts
      have hd := depth_le .sign r
      rw [he, List.length_cons] at hl
      unfold depth at hn hm
      have hb : operand m .atom ts = ((operand m .atom ts).1, powerToken :: r) := Prod.ext rfl he
      rw [operand_raised hb, operand_raised (ha.trans hb),
        operand_congr n m .sign r (by omega) (by omega)]
    · rw [operand_base ht, operand_base (ha ▸ ht), ha]
  | n + 1, m + 1, .atom, [], _, _ => rfl
  | n + 1, m + 1, .atom, .opening :: r, hn, hm => by
    rw [operand_group, operand_group,
      operand_congr n m .disjunction r (depth_tail_le hn) (depth_tail_le hm)]
  | n + 1, m + 1, .atom, .num _ :: r, _, _ | n + 1, m + 1, .atom, .str _ :: r, _, _
  | n + 1, m + 1, .atom, .word _ :: r, _, _ | n + 1, m + 1, .atom, .operator _ :: r, _, _
  | n + 1, m + 1, .atom, .closing :: r, _, _ => rfl

theorem further_congr : (n m : Nat) → (level : Level) → (left : Tree) → (ts : List Token) →
    10 * ts.length ≤ n → 10 * ts.length ≤ m → further n level left ts = further m level left ts
  | n, m, level, left, [], _, _ => by rw [further_stop (by simp), further_stop (by simp)]
  | n, m, level, left, t :: r, hn, hm => by
    cases ht : t.leftOperator? level with
    | none => rw [further_stop (by rintro _ ⟨⟩; exact ht), further_stop (by rintro _ ⟨⟩; exact ht)]
    | some op =>
      rw [List.length_cons] at hn hm
      obtain ⟨n, rfl⟩ : ∃ k, n = k + 1 := ⟨n - 1, by omega⟩
      obtain ⟨m, rfl⟩ : ∃ k, m = k + 1 := ⟨m - 1, by omega⟩
      have hr := length_operand m level.tighter r
      have hd := depth_le level.tighter r
      rw [further_more ht, further_more ht,
        operand_congr n m level.tighter r (by omega) (by omega),
        further_congr n m level _ _ (by omega) (by omega)]

theorem links_congr : (n m : Nat) → (ts : List Token) →
    10 * ts.length ≤ n → 10 * ts.length ≤ m → links n ts = links m ts
  | n, m, [], _, _ => by rw [links_stop (by simp), links_stop (by simp)]
  | n, m, t :: r, hn, hm => by
    cases ht : t.comparison? with
    | none => rw [links_stop (by rintro _ ⟨⟩; exact ht), links_stop (by rintro _ ⟨⟩; exact ht)]
    | some op =>
      rw [List.length_cons] at hn hm
      obtain ⟨n, rfl⟩ : ∃ k, n = k + 1 := ⟨n - 1, by omega⟩
      obtain ⟨m, rfl⟩ : ∃ k, m = k + 1 := ⟨m - 1, by omega⟩
      have hr := length_operand m .sum r
      have hd := depth_le .sum r
      rw [links_more ht, links_more ht, operand_congr n m .sum r (by omega) (by omega),
        links_congr n m _ (by omega) (by omega)]

end

/-- The depth that the reader allows itself is enough. -/
theorem readTree_of_depth (h : depth .disjunction ts ≤ n) :
    readTree ts = ((operand n .disjunction ts).1, (operand n .disjunction ts).2.head?) := by
  have hb : depth .disjunction ts ≤ depthBound ts := by
    have := depth_le .disjunction ts
    unfold depthBound
    omega
  rw [readTree, operand_congr _ _ _ _ hb h]

end Showrunner.Expression
