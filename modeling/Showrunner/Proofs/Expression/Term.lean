import Showrunner.Expression.Evaluator
import Showrunner.Proofs.Expression.Grammar
import Showrunner.Proofs.Expression.Lexeme
import Showrunner.Proofs.Expression.Meaning

namespace Showrunner.Expression

def Word.isPlain (w : Word) : Bool :=
  !(["and", "or", "not", "true", "false"].contains (Text.lowerAscii w.text))

mutual

/-- An expression as it is meant, with the way each of its operators is spelled. -/
inductive Term where
  | number (n : Decimal.Numeral)
  | quoted (q : Quotation)
  | word (w : Word) (h : w.isPlain)
  | truth (b : Bool) (w : Word) (h : Text.lowerAscii w.text = if b then "true" else "false")
  | signed (sign : Sign) (operand : Term)
  | not (mark : Lexeme) (h : mark.token.isNot) (operand : Term)
  | binary (op : Binary) (mark : Lexeme) (h : mark.token.binary? = some op) (left right : Term)
  | chain (first : Term) (op : Comparison) (second : Term) (rest : Terms)

inductive Terms where
  | nil
  | cons (op : Comparison) (operand : Term) (rest : Terms)

end

mutual

def Term.value : Term → Except Failure Value
  | .number n => .ok (.num n.value)
  | .quoted q => .ok (.str (.ofList q.inner))
  | .word w _ => .ok (.str w.text)
  | .truth b _ _ => .ok (.bool b)
  | .signed sign e => e.value.bind (Meaning.signed sign)
  | .not _ _ e => e.value.map fun a => .bool ¬ Meaning.IsTrue a
  | .binary op _ _ l r => l.value.bind fun a => r.value.bind fun b => Meaning.binary op a b
  | .chain first op second rest =>
    first.value.bind fun a => second.value.bind fun b =>
      (Meaning.comparison op a b).bind fun verdict => (rest.verdict b verdict).map .bool

def Terms.verdict (left : Value) (verdict : Bool) : Terms → Except Failure Bool
  | .nil => .ok verdict
  | .cons op e rest =>
    e.value.bind fun b => (Meaning.comparison op left b).bind fun holds =>
      rest.verdict b (verdict && holds)

end

def Term.level : Term → Level
  | .number _ | .quoted _ | .word _ _ | .truth _ _ _ => .atom
  | .signed _ _ => .sign
  | .not _ _ _ => .negation
  | .binary op _ _ _ _ => op.level
  | .chain _ _ _ _ => .comparison

/-- What may stand to the left of an operator. Only `**` does not group to the left. -/
def Binary.leftPlace (op : Binary) : Level :=
  match op.level with
  | .power => .atom
  | level => level

def Binary.rightPlace (op : Binary) : Level :=
  match op.level with
  | .power => .sign
  | level => level.tighter

/-- Puts parentheses around an expression that binds too loosely for its place. -/
def enclose (place level : Level) (ls : List Lexeme) : List Lexeme :=
  if level.rank < place.rank then .opening :: (ls ++ [.closing]) else ls

def Sign.lexeme : Sign → Lexeme
  | .minus => .operator (.binary (.arithmetic .minus))
  | .plus => .operator (.binary (.arithmetic .plus))

mutual

/-- Writes an expression with no more parentheses than it needs. -/
def Term.lexemes : Term → List Lexeme
  | .number n => [.number n]
  | .quoted q => [.quoted q]
  | .word w _ | .truth _ w _ => [.word w]
  | .signed sign e => sign.lexeme :: enclose .sign e.level e.lexemes
  | .not mark _ e => mark :: enclose .negation e.level e.lexemes
  | .binary op mark _ l r =>
    enclose op.leftPlace l.level l.lexemes ++ mark :: enclose op.rightPlace r.level r.lexemes
  | .chain first op second rest =>
    enclose .sum first.level first.lexemes ++ .operator (.comparison op) ::
      (enclose .sum second.level second.lexemes ++ rest.lexemes)

def Terms.lexemes : Terms → List Lexeme
  | .nil => []
  | .cons op e rest =>
    .operator (.comparison op) :: (enclose .sum e.level e.lexemes ++ rest.lexemes)

end

mutual

def Term.tree : Term → Tree
  | .number n => .literal (.num n.value)
  | .quoted q => .literal (.str (.ofList q.inner))
  | .word w _ => .literal (.str w.text)
  | .truth b _ _ => .literal (.bool b)
  | .signed sign e => .signed sign e.tree
  | .not _ _ e => .not e.tree
  | .binary op _ _ l r => .binary op l.tree r.tree
  | .chain first op second rest => .chain first.tree op second.tree rest.links

def Terms.links : Terms → Links
  | .nil => .nil
  | .cons op e rest => .cons op e.tree rest.links

end

mutual

theorem Term.eval_tree : (t : Term) → t.tree.eval = t.value
  | .number _ | .quoted _ | .word _ _ | .truth _ _ _ => rfl
  | .signed sign e => by
    rw [Term.tree, Tree.eval, e.eval_tree, Term.value]
    simp only [Meaning.sign_eq]
    rfl
  | .not _ _ e => by
    rw [Term.tree, Tree.eval, e.eval_tree, Term.value]
    simp only [← Meaning.truthy_iff]
    cases e.value with
    | error f => rfl
    | ok a => cases ha : a.truthy <;> simp [ha, Except.map, bind, Except.bind, pure, Except.pure]
  | .binary op _ _ l r => by
    rw [Term.tree, Tree.eval, l.eval_tree, r.eval_tree, Term.value]
    simp only [Meaning.binary_eq]
    rfl
  | .chain first op second rest => by
    rw [Term.tree, Tree.eval, first.eval_tree, second.eval_tree, Term.value]
    simp only [Meaning.holds_eq, rest.eval_links]
    rfl

theorem Terms.eval_links : (ts : Terms) → (left : Value) → (verdict : Bool) →
    ts.links.eval left verdict = ts.verdict left verdict
  | .nil, _, _ => rfl
  | .cons op e rest, left, verdict => by
    rw [Terms.links, Links.eval, e.eval_tree, Terms.verdict]
    simp only [Meaning.holds_eq, rest.eval_links]
    rfl

end

def tokens (ls : List Lexeme) : List Token := ls.map Lexeme.token

theorem binary?_arithmetic {t : Token} {op : Arithmetic}
    (h : t.binary? = some (.arithmetic op)) : t = .operator (.binary (.arithmetic op)) := by
  unfold Token.binary? at h
  split at h
  · cases h
    rfl
  · split at h
    · cases h
    · split at h <;> cases h

theorem joint?_of_binary? {t : Token} {op : Binary} (h : t.binary? = some op) :
    t.joint? = some op.level := by
  simp [Token.joint?, h]

theorem stops_cons {t : Token} {j level : Level} (h : t.joint? = some j)
    (hj : j.rank < level.rank) (ts : List Token) : Stops level (t :: ts) := by
  intro u hu k hk
  cases hu
  rw [h] at hk
  cases hk
  exact hj

theorem stops_closing (level : Level) (ts : List Token) : Stops level (.closing :: ts) := by
  intro u hu k hk
  cases hu
  cases hk

/-- No operator joins operands of a sign, so what ends an operand of a power ends one of those. -/
theorem Stops.sign {ts : List Token} (h : Stops .power ts) : Stops .sign ts := by
  intro t ht k hk
  have hl := h t ht k hk
  have hk : k ≠ .sign := by
    rintro rfl
    rcases Option.or_eq_some_iff.mp hk with hb | ⟨_, hc⟩
    · obtain ⟨op, _, ho⟩ := Option.map_eq_some_iff.mp hb
      rcases op with op | op <;> cases op <;> cases ho
    · obtain ⟨_, _, ho⟩ := Option.map_eq_some_iff.mp hc
      cases ho
  cases k <;> first | exact absurd rfl hk | decide | (simp only [Level.rank] at hl; omega)

theorem isNot_word (w : String) : (Token.word w).isNot = (Text.lowerAscii w == "not") := rfl

theorem operand?_word {w : Word} (h : w.isPlain) :
    Token.operand? (.word w.text) = some (.str w.text) := by
  have hw : Text.lowerAscii w.text ∉ ["and", "or", "not", "true", "false"] := by
    simpa [Word.isPlain] using h
  simp only [List.mem_cons, not_or] at hw
  unfold Token.operand? wordValue
  simp [isNot_word, hw]

theorem operand?_truth {w : Word} {b : Bool}
    (h : Text.lowerAscii w.text = if b then "true" else "false") :
    Token.operand? (.word w.text) = some (.bool b) := by
  unfold Token.operand? wordValue
  cases b <;> simp [isNot_word, h]

/-- The expression is read wherever nothing of its level or a tighter one follows. -/
def Term.Readable (t : Term) : Prop :=
  ∀ rest, Stops t.level rest → Reads t.level (tokens t.lexemes ++ rest) t.tree rest

/-- Reading the expression goes on with the operators of its own level that follow. -/
def Term.Extensible (t : Term) : Prop :=
  ∀ rest e s, Stops t.level.tighter rest → ReadsFurther t.level t.tree rest e s →
    Reads t.level (tokens t.lexemes ++ rest) e s

theorem Term.Readable.enclose {t : Term} (h : t.Readable) {place : Level} {rest : List Token}
    (hs : Stops place rest) :
    Reads place (tokens (enclose place t.level t.lexemes) ++ rest) t.tree rest := by
  unfold Expression.enclose
  split
  · have hi := (h (.closing :: rest) (stops_closing _ _)).loosen_to (Nat.zero_le _)
      (stops_closing .disjunction rest)
    have hg := Reads.group hi
    have hp : place.rank ≤ Level.atom.rank := Nat.le_of_lt_succ place.rank_lt
    have ht : tokens (.opening :: (t.lexemes ++ [.closing])) ++ rest =
        .opening :: (tokens t.lexemes ++ .closing :: rest) := by
      simp [tokens, Lexeme.token]
    rw [ht]
    exact hg.loosen_to hp hs
  · next hl => exact (h rest (hs.mono (by omega))).loosen_to (by omega) hs

theorem Term.Readable.further {t : Term} (h : t.Readable)
    (hx : t.level.groupsLeft → t.Extensible) {level : Level} (hl : level.groupsLeft)
    {rest s : List Token} {e : Tree} (hs : Stops level.tighter rest)
    (hf : ReadsFurther level t.tree rest e s) :
    Reads level (tokens (Expression.enclose level t.level t.lexemes) ++ rest) e s := by
  by_cases hk : t.level = level
  · subst hk
    have he : Expression.enclose t.level t.level t.lexemes = t.lexemes := if_neg (by omega)
    rw [he]
    exact hx hl rest e s hs hf
  · have hr := Level.rank_tighter hl
    have hne : t.level.rank ≠ level.rank := fun hn => hk (Level.rank_injective hn)
    have he : Expression.enclose level t.level t.lexemes =
        Expression.enclose level.tighter t.level t.lexemes := by
      unfold Expression.enclose
      split <;> split <;> first | rfl | omega
    rw [he]
    exact .left hl (h.enclose hs) hf

theorem tokens_cons (l : Lexeme) (ls : List Lexeme) : tokens (l :: ls) = l.token :: tokens ls := rfl

theorem tokens_append (ks ls : List Lexeme) : tokens (ks ++ ls) = tokens ks ++ tokens ls :=
  List.map_append

/-- An operator that groups to the left, with its operands, is read before those that follow. -/
theorem Term.extensible_binary {op : Binary} {mark : Lexeme} {h : mark.token.binary? = some op}
    {l r : Term} (hl : l.Readable) (hx : l.level.groupsLeft → l.Extensible) (hr : r.Readable)
    (hg : op.level.groupsLeft) : (Term.binary op mark h l r).Extensible := by
  intro rest e s hs hf
  have hp : op.leftPlace = op.level ∧ op.rightPlace = op.level.tighter := by
    unfold Binary.leftPlace Binary.rightPlace
    cases hl : op.level <;> first | exact ⟨rfl, rfl⟩ | (rw [hl] at hg; cases hg)
  have hne : op.level ≠ .power := by
    intro he
    rw [he] at hg
    cases hg
  have hm : mark.token.leftOperator? op.level = some op := by
    simp [Token.leftOperator?, h, Option.filter, hne]
  have hmore := ReadsFurther.more hm (hr.enclose hs) hf
  have hstop : Stops op.level.tighter
      (mark.token :: (tokens (enclose op.level.tighter r.level r.lexemes) ++ rest)) :=
    stops_cons (joint?_of_binary? h) (by rw [Level.rank_tighter hg]; omega) _
  have hread := hl.further hx hg hstop hmore
  simpa only [Term.lexemes, Term.level, hp, tokens_append, tokens_cons, List.append_assoc,
    List.cons_append] using hread

theorem Terms.stops (ts : Terms) {rest : List Token} (h : Stops .comparison rest) :
    Stops .sum (tokens ts.lexemes ++ rest) := by
  cases ts with
  | nil => exact h.mono (by decide)
  | cons op e ts =>
    have hj : (Lexeme.operator (.comparison op)).token.joint? = some .comparison := rfl
    exact stops_cons hj (by decide) _

mutual

theorem Term.readable : (t : Term) → t.Readable ∧ (t.level.groupsLeft → t.Extensible)
  | .number n => ⟨fun rest _ => .literal rfl, fun h => by cases h⟩
  | .quoted q => ⟨fun rest _ => .literal rfl, fun h => by cases h⟩
  | .word w h => ⟨fun rest _ => .literal (operand?_word h), fun h => by cases h⟩
  | .truth b w h => ⟨fun rest _ => .literal (operand?_truth h), fun h => by cases h⟩
  | .signed sign e => by
    refine ⟨fun rest hs => ?_, fun h => by cases h⟩
    have he := e.readable.1.enclose hs
    have hm : sign.lexeme.token.sign? = some sign := by cases sign <;> rfl
    exact .signed hm he
  | .not mark h e => ⟨fun rest hs => .not h (e.readable.1.enclose hs), fun h => by cases h⟩
  | .binary op mark h l r => by
    by_cases hg : op.level.groupsLeft
    · have hx : (Term.binary op mark h l r).Extensible :=
        Term.extensible_binary l.readable.1 l.readable.2 r.readable.1 hg
      have ht := Level.rank_tighter hg
      refine ⟨fun rest hs => ?_, fun _ => hx⟩
      have hs' := hs.mono (k := op.level.tighter) (by rw [Term.level, ht]; omega)
      exact hx rest _ rest hs' (.stop hs.leftOperator?_eq_none)
    · obtain rfl : op = .arithmetic .power := by
        rcases op with op | op <;> cases op <;> first | rfl | exact absurd rfl hg
      refine ⟨fun rest hs => ?_, fun h => absurd h hg⟩
      have hm := binary?_arithmetic h
      have hr := r.readable.1.enclose hs.sign
      have hstop : Stops .atom (mark.token :: (tokens (enclose .sign r.level r.lexemes) ++ rest)) :=
        stops_cons (joint?_of_binary? h) (by decide) _
      have hl := l.readable.1.enclose hstop
      rw [hm] at hl
      have hread := Reads.raised hl hr
      have ht : tokens (Term.binary _ mark h l r).lexemes ++ rest =
          tokens (enclose .atom l.level l.lexemes) ++
            mark.token :: (tokens (enclose .sign r.level r.lexemes) ++ rest) := by
        simp only [Term.lexemes, tokens_append, tokens_cons, List.append_assoc, List.cons_append]
        rfl
      rw [ht, hm]
      exact hread
  | .chain first op second rest => by
    refine ⟨fun after hs => ?_, fun h => by cases h⟩
    have hrest := rest.readable after hs
    have hsecond := second.readable.1.enclose (rest.stops hs)
    have hj : (Lexeme.operator (.comparison op)).token.joint? = some .comparison := rfl
    have hstop : Stops .sum ((Lexeme.operator (.comparison op)).token ::
        (tokens (enclose .sum second.level second.lexemes) ++ (tokens rest.lexemes ++ after))) :=
      stops_cons hj (by decide) _
    have hread := Reads.chain (first.readable.1.enclose hstop) (.more rfl hsecond hrest)
    simpa only [Term.lexemes, Term.level, Term.tree, chainOf, tokens_append, tokens_cons,
      List.append_assoc, List.cons_append] using hread

theorem Terms.readable : (ts : Terms) → ∀ rest, Stops .comparison rest →
    ReadsLinks (tokens ts.lexemes ++ rest) ts.links rest
  | .nil, rest, hs => .stop hs.comparison?_eq_none
  | .cons op e ts, rest, hs => by
    have he := e.readable.1.enclose (ts.stops hs)
    have hmore := ReadsLinks.more (t := (Lexeme.operator (.comparison op)).token) rfl he
      (ts.readable rest hs)
    simpa only [Terms.lexemes, Terms.links, tokens_append, tokens_cons, List.append_assoc,
      List.cons_append] using hmore

end

def Term.render (t : Term) : String := .ofList (spaced t.lexemes)

theorem Term.reads (t : Term) : Reads .disjunction (tokens t.lexemes) t.tree [] := by
  have hn : ∀ level, Stops level [] := fun _ _ h => by cases h
  have hr := (t.readable.1 [] (hn _)).loosen_to (Nat.zero_le _) (hn .disjunction)
  rwa [List.append_nil] at hr

end Showrunner.Expression
