import Showrunner.Expression.Evaluator
import Showrunner.Proofs.Expression.Reading

namespace Showrunner.Expression

mutual

/-- Nothing was missing or out of place where the expression was read. -/
def Tree.isWhole : Tree → Bool
  | .literal _ => true
  | .signed _ e | .not e => e.isWhole
  | .binary _ l r => l.isWhole && r.isWhole
  | .chain first _ second rest => first.isWhole && (second.isWhole && rest.isWhole)
  | .fault _ | .unclosed _ => false

def Links.isWhole : Links → Bool
  | .nil => true
  | .cons _ e rest => e.isWhole && rest.isWhole

end

theorem isWhole_chainOf (first : Tree) (ls : Links) :
    (chainOf first ls).isWhole = (first.isWhole && ls.isWhole) := by
  cases ls with
  | nil => rw [chainOf, Links.isWhole, Bool.and_true]
  | cons op e rest => rw [chainOf, Tree.isWhole, Links.isWhole]

theorem ok_of_bind {α β : Type} {x : Except Failure α} {f : α → Except Failure β} {b : β}
    (h : x >>= f = .ok b) : ∃ a, x = .ok a ∧ f a = .ok b := by
  cases x with
  | error e => cases h
  | ok a => exact ⟨a, rfl, h⟩

mutual

theorem Tree.isWhole_of_eval : (e : Tree) → {v : Value} → e.eval = .ok v → e.isWhole
  | .literal _, _, _ => rfl
  | .signed _ e, _, h | .not e, _, h => by
    obtain ⟨a, ha, -⟩ := ok_of_bind h
    exact e.isWhole_of_eval ha
  | .binary _ l r, _, h => by
    obtain ⟨a, ha, h⟩ := ok_of_bind h
    obtain ⟨b, hb, -⟩ := ok_of_bind h
    rw [Tree.isWhole, l.isWhole_of_eval ha, r.isWhole_of_eval hb, Bool.and_self]
  | .chain first _ second rest, _, h => by
    obtain ⟨a, ha, h⟩ := ok_of_bind h
    obtain ⟨b, hb, h⟩ := ok_of_bind h
    obtain ⟨verdict, -, h⟩ := ok_of_bind h
    obtain ⟨c, hc, -⟩ := ok_of_bind h
    rw [Tree.isWhole, first.isWhole_of_eval ha, second.isWhole_of_eval hb,
      rest.isWhole_of_eval hc, Bool.and_self, Bool.and_self]
  | .unclosed _, _, h => by
    obtain ⟨a, -, h⟩ := ok_of_bind h
    cases h

theorem Links.isWhole_of_eval : (ls : Links) → {left : Value} → {verdict b : Bool} →
    ls.eval left verdict = .ok b → ls.isWhole
  | .nil, _, _, _, _ => rfl
  | .cons _ e rest, _, _, _, h => by
    obtain ⟨a, ha, h⟩ := ok_of_bind h
    obtain ⟨holds, -, h⟩ := ok_of_bind h
    rw [Links.isWhole, e.isWhole_of_eval ha, rest.isWhole_of_eval h, Bool.and_self]

end

/-- How many openings are left open behind some parentheses, of which `d` were open before. An
opening is true. There are none if a closing has no opening. -/
def nesting (d : Nat) : List Bool → Option Nat
  | [] => some d
  | true :: bs => nesting (d + 1) bs
  | false :: bs =>
    match d with
    | 0 => none
    | d + 1 => nesting d bs

def Token.bracket? : Token → Option Bool
  | .opening => some true
  | .closing => some false
  | _ => none

/-- The tokens close what they open, and `d` openings before them. -/
def Closes (d : Nat) (ts : List Token) : Prop := nesting d (ts.filterMap Token.bracket?) = some 0

variable {n d : Nat} {level : Level} {t : Token} {ts r rest : List Token}

theorem Closes.tail (h : Closes d (t :: r)) (ht : t.bracket? = none) : Closes d r := by
  rwa [Closes, List.filterMap_cons_none ht] at h

theorem Closes.opened (h : Closes d (.opening :: r)) : Closes (d + 1) r := h

theorem Closes.closed (h : Closes (d + 1) (.closing :: r)) : Closes d r := h

theorem not_closes_closing : ¬ Closes 0 (.closing :: r) := fun h => by cases h

theorem not_closes_nil : ¬ Closes (d + 1) [] := fun h => by cases h

theorem bracket?_of_isNot (h : t.isNot) : t.bracket? = none := by
  cases t <;> first | rfl | cases h

theorem bracket?_of_sign? {sign : Sign} (h : t.sign? = some sign) : t.bracket? = none := by
  cases t <;> first | rfl | cases h

theorem bracket?_of_comparison? {op : Comparison} (h : t.comparison? = some op) :
    t.bracket? = none := by
  cases t <;> first | rfl | cases h

theorem bracket?_of_leftOperator? {op : Binary} (h : t.leftOperator? level = some op) :
    t.bracket? = none := by
  cases t <;> first | rfl | cases h

section

variable {α : Type} (whole : α → Bool) (d : Nat) (rest : List Token)

/-- Two readings agree if both went wrong, or if both gave the same and the second left a closing
parenthesis that the first did not have. What the first left closes `d` openings. -/
inductive Agrees : α × List Token → α × List Token → Prop
  | same {a : α} {ts : List Token} (hw : whole a) (hc : Closes d ts) :
    Agrees (a, ts) (a, ts ++ .closing :: rest)
  | wrong {p q : α × List Token} (hp : whole p.1 = false) (hq : whole q.1 = false) : Agrees p q

end

theorem isWhole_of_further : (n : Nat) → (level : Level) → (left : Tree) → (ts : List Token) →
    (further n level left ts).1.isWhole → left.isWhole
  | 0, _, _, _, h => h
  | n + 1, level, left, [], h => h
  | n + 1, level, left, t :: r, h => by
    cases ht : t.leftOperator? level with
    | none =>
      rw [further_stop (by rintro _ ⟨⟩; exact ht)] at h
      exact h
    | some op =>
      rw [further_more ht] at h
      have hb := isWhole_of_further n level _ _ h
      rw [Tree.isWhole, Bool.and_eq_true] at hb
      exact hb.1

theorem further_wrong {left : Tree} (h : left.isWhole = false) :
    (further n level left ts).1.isWhole = false := by
  rw [Bool.eq_false_iff] at *
  exact fun hf => h (isWhole_of_further n level left ts hf)

theorem closeGroup_wrong {p : Tree × List Token} (h : p.1.isWhole = false) :
    (closeGroup p).1.isWhole = false := by
  unfold closeGroup
  split
  · exact h
  · rfl

namespace Agrees

variable {p q : Tree × List Token}

theorem map (f : Tree → Tree) (hf : ∀ e, (f e).isWhole = e.isWhole)
    (h : Agrees Tree.isWhole d rest p q) :
    Agrees Tree.isWhole d rest (f p.1, p.2) (f q.1, q.2) := by
  cases h with
  | same hw hc => exact .same ((hf _).trans hw) hc
  | wrong hp hq => exact .wrong ((hf _).trans hp) ((hf _).trans hq)

theorem further (h : Agrees Tree.isWhole d rest p q)
    (hf : ∀ left ts, left.isWhole → Closes d ts →
      Agrees Tree.isWhole d rest (Expression.further n level left ts)
        (Expression.further n level left (ts ++ .closing :: rest))) :
    Agrees Tree.isWhole d rest (Expression.further n level p.1 p.2)
      (Expression.further n level q.1 q.2) := by
  cases h with
  | same hw hc => exact hf _ _ hw hc
  | wrong hp hq => exact .wrong (further_wrong hp) (further_wrong hq)

theorem links {α : Type} {whole : α → Bool} (f : Tree → Links → α)
    (hf : ∀ e ls, whole (f e ls) = (e.isWhole && ls.isWhole)) (h : Agrees Tree.isWhole d rest p q)
    (hl : ∀ ts, Closes d ts → Agrees Links.isWhole d rest (Expression.links n ts)
      (Expression.links n (ts ++ .closing :: rest))) :
    Agrees whole d rest (f p.1 (Expression.links n p.2).1, (Expression.links n p.2).2)
      (f q.1 (Expression.links n q.2).1, (Expression.links n q.2).2) := by
  cases h with
  | @same e ts hw hc =>
    have ha := hl ts hc
    dsimp only
    generalize Expression.links n ts = l at ha
    generalize Expression.links n (ts ++ .closing :: rest) = k at ha
    cases ha with
    | same hw' hc => exact .same (by rw [hf, hw, hw', Bool.and_self]) hc
    | wrong hp hq =>
      exact .wrong (by rw [hf, hp, Bool.and_false]) (by rw [hf, hq, Bool.and_false])
  | wrong hp hq => exact .wrong (by rw [hf, hp, Bool.false_and]) (by rw [hf, hq, Bool.false_and])

/-- The parenthesis that closes a group is not the one behind the text. -/
theorem group (h : Agrees Tree.isWhole (d + 1) rest p q) :
    Agrees Tree.isWhole d rest (closeGroup p) (closeGroup q) := by
  cases h with
  | @same e ts hw hc =>
    cases ts with
    | nil => exact absurd hc not_closes_nil
    | cons t s =>
      cases t with
      | closing => exact .same hw hc.closed
      | _ => exact .wrong rfl rfl
  | wrong hp hq => exact .wrong (closeGroup_wrong hp) (closeGroup_wrong hq)

end Agrees

theorem power_wrong (h : (operand n .atom ts).1.isWhole = false) :
    (operand (n + 1) .power ts).1.isWhole = false := by
  obtain ⟨t, r, he, rfl⟩ | hs := head_cases (· = powerToken) (operand n .atom ts).2
  · rw [operand_raised (Prod.ext rfl he), Tree.isWhole, h, Bool.false_and]
  · rw [operand_base hs, h]

theorem head?_append_closing {P : Token → Prop} (h : ∀ t ∈ ts.head?, P t) (hc : P .closing) :
    ∀ t ∈ (ts ++ .closing :: rest).head?, P t := by
  cases ts with
  | nil => rintro _ ⟨⟩; exact hc
  | cons t r => exact h

mutual

/-- Inside parentheses an expression is read as it is read alone. -/
theorem operand_closing : (n : Nat) → (level : Level) → (ts : List Token) → {d : Nat} →
    Closes d ts →
    Agrees Tree.isWhole d rest (operand n level ts) (operand n level (ts ++ .closing :: rest))
  | 0, _, _, _, _ => .wrong rfl rfl
  | n + 1, .disjunction, ts, _, h | n + 1, .conjunction, ts, _, h | n + 1, .sum, ts, _, h
  | n + 1, .product, ts, _, h => by
    rw [operand_left rfl, operand_left rfl]
    exact (operand_closing n _ ts h).further fun left ts hw hc => further_closing n _ left ts hw hc
  | n + 1, .negation, ts, _, h => by
    obtain ⟨t, r, rfl, ht⟩ | ht := head_cases (fun t => t.isNot) ts
    · rw [operand_not ht, List.cons_append, operand_not ht]
      exact (operand_closing n .negation r (h.tail (bracket?_of_isNot ht))).map .not fun _ => rfl
    · have hp := fun t h => Bool.eq_false_iff.mpr (ht t h)
      rw [operand_positive hp, operand_positive (head?_append_closing hp rfl)]
      exact operand_closing n .comparison ts h
  | n + 1, .comparison, ts, _, h => by
    rw [operand_comparison, operand_comparison]
    exact (operand_closing n .sum ts h).links chainOf isWhole_chainOf fun ts hc =>
      links_closing n ts hc
  | n + 1, .sign, ts, _, h => by
    obtain ⟨t, r, rfl, ht⟩ | ht := head_cases (fun t => t.sign?.isSome) ts
    · obtain ⟨sign, ht⟩ := Option.isSome_iff_exists.mp ht
      rw [operand_signed ht, List.cons_append, operand_signed ht]
      exact (operand_closing n .sign r (h.tail (bracket?_of_sign? ht))).map (.signed sign)
        fun _ => rfl
    · have hp := fun t h => Option.not_isSome_iff_eq_none.mp (ht t h)
      rw [operand_unsigned hp, operand_unsigned (head?_append_closing hp rfl)]
      exact operand_closing n .power ts h
  | n + 1, .power, ts, _, h => by
    have ho := operand_closing n .atom ts h
    generalize hp : operand n .atom ts = p at ho
    generalize hq : operand n .atom (ts ++ .closing :: rest) = q at ho
    cases ho with
    | @same e s hw hc =>
      obtain ⟨t, r, rfl, rfl⟩ | hs := head_cases (· = powerToken) s
      · have hr := operand_closing n .sign r (hc.tail rfl)
        rw [operand_raised hp, operand_raised hq]
        refine hr.map (.binary _ e) fun e' => ?_
        rw [Tree.isWhole, hw, Bool.true_and]
      · rw [operand_base (hp ▸ hs), operand_base (hq ▸ head?_append_closing hs nofun), hp, hq]
        exact .same hw hc
    | wrong hp' hq' =>
      subst hp hq
      exact .wrong (power_wrong hp') (power_wrong hq')
  | n + 1, .atom, [], _, h => .wrong rfl rfl
  | n + 1, .atom, .opening :: r, d, h => by
    have ho := operand_closing n .disjunction r h.opened
    rw [List.cons_append, operand_group, operand_group]
    exact ho.group
  | n + 1, .atom, .num _ :: r, _, h | n + 1, .atom, .str _ :: r, _, h
  | n + 1, .atom, .word _ :: r, _, h => .same rfl (h.tail rfl)
  | n + 1, .atom, .operator _ :: r, _, h | n + 1, .atom, .closing :: r, _, h => .wrong rfl rfl

theorem further_closing : (n : Nat) → (level : Level) → (left : Tree) → (ts : List Token) →
    {d : Nat} → left.isWhole → Closes d ts →
    Agrees Tree.isWhole d rest (further n level left ts)
      (further n level left (ts ++ .closing :: rest))
  | 0, _, _, _, _, hw, h => .same hw h
  | n + 1, level, left, ts, _, hw, h => by
    obtain ⟨t, r, rfl, ht⟩ | ht := head_cases (fun t => (t.leftOperator? level).isSome) ts
    · obtain ⟨op, ht⟩ := Option.isSome_iff_exists.mp ht
      have ho := operand_closing n level.tighter r (h.tail (bracket?_of_leftOperator? ht))
      rw [further_more ht, List.cons_append, further_more ht]
      refine (ho.map (.binary op left) fun e => ?_).further fun left ts hw hc =>
        further_closing n level left ts hw hc
      rw [Tree.isWhole, hw, Bool.true_and]
    · have hp := fun t h => Option.not_isSome_iff_eq_none.mp (ht t h)
      rw [further_stop hp, further_stop (head?_append_closing hp rfl)]
      exact .same hw h

theorem links_closing : (n : Nat) → (ts : List Token) → {d : Nat} → Closes d ts →
    Agrees Links.isWhole d rest (links n ts) (links n (ts ++ .closing :: rest))
  | 0, _, _, h => .same rfl h
  | n + 1, ts, _, h => by
    obtain ⟨t, r, rfl, ht⟩ | ht := head_cases (fun t => t.comparison?.isSome) ts
    · obtain ⟨op, ht⟩ := Option.isSome_iff_exists.mp ht
      have ho := operand_closing n .sum r (h.tail (bracket?_of_comparison? ht))
      rw [links_more ht, List.cons_append, links_more ht]
      exact ho.links (Links.cons op) (fun _ _ => rfl) fun ts hc => links_closing n ts hc
    · have hp := fun t h => Option.not_isSome_iff_eq_none.mp (ht t h)
      rw [links_stop hp, links_stop (head?_append_closing hp rfl)]
      exact .same rfl h

end

theorem operand_alone {e : Tree} (hl : level ≠ .atom)
    (h : operand n level.tighter (.opening :: r) = (e, [])) :
    operand (n + 1) level (.opening :: r) = (e, []) := by
  cases level with
  | disjunction | conjunction | sum | product =>
    rw [operand_left rfl, h]
    exact further_stop (by rintro _ ⟨⟩)
  | negation =>
    rw [operand_positive (by rintro _ ⟨⟩; rfl)]
    exact h
  | comparison =>
    change operand n .sum _ = _ at h
    rw [operand_comparison, h, links_stop (by rintro _ ⟨⟩)]
    rfl
  | sign =>
    rw [operand_unsigned (by rintro _ ⟨⟩; rfl)]
    exact h
  | power =>
    change operand n .atom _ = _ at h
    have hs : ∀ t ∈ (operand n .atom (.opening :: r)).2.head?, t ≠ powerToken := by
      rw [h]
      rintro _ ⟨⟩
    rw [operand_base hs, h]
  | atom => exact absurd rfl hl

theorem operand_wrong (hl : level ≠ .atom)
    (h : (operand n level.tighter (.opening :: r)).1.isWhole = false) :
    (operand (n + 1) level (.opening :: r)).1.isWhole = false := by
  cases level with
  | disjunction | conjunction | sum | product =>
    rw [operand_left rfl]
    exact further_wrong h
  | negation =>
    rw [operand_positive (by rintro _ ⟨⟩; rfl)]
    exact h
  | comparison =>
    change (operand n .sum _).1.isWhole = false at h
    rw [operand_comparison, isWhole_chainOf, h, Bool.false_and]
  | sign =>
    rw [operand_unsigned (by rintro _ ⟨⟩; rfl)]
    exact h
  | power => exact power_wrong h
  | atom => exact absurd rfl hl

theorem operand_climb {P : Tree × List Token → Prop}
    (hstep : ∀ n level, level ≠ .atom → P (operand n level.tighter (.opening :: r)) →
      P (operand (n + 1) level (.opening :: r)))
    (h : P (operand n .atom (.opening :: r))) (k : Nat) (level : Level) (hk : level.rank + k = 8) :
    P (operand (n + k) level (.opening :: r)) := by
  induction k generalizing level with
  | zero =>
    obtain rfl : level = .atom := Level.rank_injective (by simpa [Level.rank] using hk)
    exact h
  | succ k ih =>
    have hl : level ≠ .atom := by
      rintro rfl
      simp only [Level.rank] at hk
      omega
    have hr : level.tighter.rank = level.rank + 1 := by
      cases level <;> first | rfl | exact absurd rfl hl
    exact hstep (n + k) level hl (ih level.tighter (by omega))

theorem valueOf_wrong (h : (readTree ts).1.isWhole = false) : (valueOf ts).toOption = none := by
  unfold valueOf
  generalize readTree ts = p at h
  obtain ⟨e, extra⟩ := p
  cases he : e.eval with
  | error f =>
    dsimp only
    rw [he]
    rfl
  | ok v =>
    rw [e.isWhole_of_eval he] at h
    cases h

theorem valueOf_rest {e : Tree} (h : readTree ts = (e, some t)) :
    (valueOf ts).toOption = none := by
  unfold valueOf
  rw [h]
  dsimp only
  cases e.eval <;> rfl

/-- Parentheses around tokens that close what they open change nothing but the reason of a
failure. -/
theorem valueOf_enclosed (h : Closes 0 ts) :
    (valueOf (.opening :: (ts ++ [.closing]))).toOption = (valueOf ts).toOption := by
  obtain ⟨n, hg, hn⟩ : ∃ n, depth .disjunction (.opening :: (ts ++ [.closing])) ≤ n + 1 + 8 ∧
      depth .disjunction ts ≤ n :=
    ⟨10 * (ts.length + 2), by unfold depth; simp; omega, by unfold depth; omega⟩
  have hts := readTree_of_depth hn
  have hgroup := readTree_of_depth hg
  have ho : Agrees Tree.isWhole 0 [] _ _ := operand_closing n .disjunction ts h
  have ha : operand (n + 1) .atom (.opening :: (ts ++ [.closing])) = closeGroup _ := operand_group
  generalize operand n .disjunction ts = p at ho hts
  generalize operand n .disjunction (ts ++ [.closing]) = q at ho ha
  have hwrong (hw : (closeGroup q).1.isWhole = false) :
      (valueOf (.opening :: (ts ++ [.closing]))).toOption = none := by
    have hd := operand_climb (P := (·.1.isWhole = false)) (fun _ _ => operand_wrong)
      (by rw [ha]; exact hw) 8 .disjunction rfl
    exact valueOf_wrong (by rw [hgroup]; exact hd)
  cases ho with
  | @same e s hw hc =>
    cases s with
    | nil =>
      have hd := operand_climb (P := (· = (e, []))) (fun _ _ => operand_alone) ha 8 .disjunction rfl
      rw [hd] at hgroup
      rw [valueOf, valueOf, hts, hgroup]
    | cons t s =>
      have hu : closeGroup (e, t :: s ++ [.closing]) = (.unclosed e, []) := by
        cases t with
        | closing => exact absurd hc not_closes_closing
        | _ => rfl
      rw [hwrong (by rw [hu]; rfl), valueOf_rest hts]
  | wrong hp hq => rw [hwrong (closeGroup_wrong hq), valueOf_wrong (by rw [hts]; exact hp)]

end Showrunner.Expression
