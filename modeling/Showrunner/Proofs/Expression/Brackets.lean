import Showrunner.Proofs.Expression.Enclosed
import Showrunner.Proofs.Text.Split

namespace Showrunner.Expression

section

variable {p : Char → Bool}

theorem takeWhile_closing (hp : p ')' = false) (s : List Char) :
    (s ++ [')']).takeWhile p = s.takeWhile p := by
  induction s with
  | nil => simp [hp]
  | cons c s ih => rw [List.cons_append, List.takeWhile_cons, List.takeWhile_cons, ih]

theorem dropWhile_closing (hp : p ')' = false) (s : List Char) :
    (s ++ [')']).dropWhile p = s.dropWhile p ++ [')'] := by
  induction s with
  | nil => simp [hp]
  | cons c s ih =>
    rw [List.cons_append, List.dropWhile_cons, List.dropWhile_cons, ih]
    split <;> rfl

theorem splitFirst_closing (hp : p ')' = false) (s : List Char) :
    Text.splitFirst p (s ++ [')']) =
      (Text.splitFirst p s).map fun split => (split.1, split.2 ++ [')']) := by
  induction s with
  | nil => simp [Text.splitFirst, hp]
  | cons c s ih =>
    rw [List.cons_append, Text.splitFirst, Text.splitFirst, ih]
    split
    · rfl
    · cases Text.splitFirst p s <;> rfl

end

theorem exponentPart_closing (s : List Char) : exponentPart (s ++ [')']) = exponentPart s := by
  have ht := fun s => takeWhile_closing (p := Char.isDigit) rfl s
  cases s with
  | nil => rfl
  | cons e s =>
    cases s with
    | nil => simp [exponentPart]
    | cons c r =>
      by_cases hp : c = '+'
      · subst hp
        simp [exponentPart, ht]
      · by_cases hm : c = '-'
        · subst hm
          simp [exponentPart, ht]
        · have hr := ht (c :: r)
          rw [List.cons_append] at hr
          simp [exponentPart, hp, hm, hr]

theorem numeral_closing (s : List Char) : numeral (s ++ [')']) = numeral s := by
  rw [numeral, numeral, takeWhile_closing rfl, dropWhile_closing rfl, exponentPart_closing]

theorem startsNumeral_closing (c : Char) (s : List Char) :
    startsNumeral c (s ++ [')']) = startsNumeral c s := by
  cases s <;> rfl

theorem operator?_head (c d : Char) (s r : List Char) :
    operator? c (d :: s) = operator? c (d :: r) := by
  unfold operator?
  split <;> simp_all

theorem operator?_closing (c : Char) (s : List Char) :
    operator? c (s ++ [')']) = operator? c s := by
  cases s with
  | nil =>
    unfold operator?
    split <;> simp_all
  | cons d r => exact operator?_head ..

theorem lexeme_closing (c : Char) (s : List Char) : lexeme c (s ++ [')']) = lexeme c s := by
  unfold lexeme
  rw [startsNumeral_closing, operator?_closing, takeWhile_closing (by decide),
    ← List.cons_append, numeral_closing]
  have hq : c = '"' ∨ c = '\'' → (')' == c) = false := by rintro (rfl | rfl) <;> rfl
  split
  · rfl
  split
  · rfl
  split
  · rfl
  split
  · next hc =>
    rw [splitFirst_closing (hq (by simpa using hc))]
    cases Text.splitFirst (· == c) s <;> rfl
  · rfl

def isNumeralPart (c : Char) : Bool := isNumeralChar c || ['e', 'E', '+', '-'].contains c

/-- The text is taken from the front of another and looks like a numeral. -/
def IsNumeralPrefix (t s : List Char) : Prop := t <+: s ∧ ∀ c ∈ t, isNumeralPart c

theorem isNumeralPart_of_mem_takeWhile {s : List Char} {c : Char}
    (h : c ∈ s.takeWhile Char.isDigit) : isNumeralPart c := by
  have hd := List.mem_takeWhile_imp h
  simp [isNumeralPart, isNumeralChar, hd]

theorem exponentPart_spec (s : List Char) : IsNumeralPrefix (exponentPart s) s := by
  have hn : ∀ s, IsNumeralPrefix [] s := fun s => ⟨List.nil_prefix, nofun⟩
  cases s with
  | nil => exact hn []
  | cons e s =>
    -- Whatever sign there is, the digits behind it are taken.
    have hx : ∀ sign r, s = sign ++ r → (∀ c ∈ sign, isNumeralPart c) →
        IsNumeralPrefix (if (e == 'e' || e == 'E') && !(r.takeWhile Char.isDigit).isEmpty then
          e :: sign ++ r.takeWhile Char.isDigit else []) (e :: s) := by
      rintro sign r rfl hsign
      split
      · next he =>
        have he : isNumeralPart e := by
          simp only [Bool.and_eq_true, Bool.or_eq_true, beq_iff_eq] at he
          rcases he.1 with rfl | rfl <;> rfl
        refine ⟨?_, ?_⟩
        · rw [List.cons_append, List.cons_prefix_cons, List.prefix_append_right_inj]
          exact ⟨rfl, List.takeWhile_prefix _⟩
        · rintro c hc
          rw [List.cons_append, List.mem_cons, List.mem_append] at hc
          rcases hc with rfl | hc | hc
          · exact he
          · exact hsign c hc
          · exact isNumeralPart_of_mem_takeWhile hc
      · exact hn _
    cases s with
    | nil => exact hx [] [] rfl nofun
    | cons c r =>
      by_cases hp : c = '+'
      · subst hp
        exact hx ['+'] r rfl (List.forall_mem_singleton.mpr rfl)
      · by_cases hm : c = '-'
        · subst hm
          exact hx ['-'] r rfl (List.forall_mem_singleton.mpr rfl)
        · rw [exponentPart]
          · exact hx [] (c :: r) rfl nofun
          · exact fun r h => hp (List.cons.inj h).1
          · exact fun r h => hm (List.cons.inj h).1

theorem numeral_spec (s : List Char) : IsNumeralPrefix (numeral s) s := by
  obtain ⟨⟨t, ht⟩, hx⟩ := exponentPart_spec (s.dropWhile isNumeralChar)
  refine ⟨⟨t, by rw [numeral, List.append_assoc, ht, List.takeWhile_append_dropWhile]⟩, ?_⟩
  intro c hc
  obtain hc | hc := List.mem_append.mp hc
  · rw [isNumeralPart, List.mem_takeWhile_imp hc, Bool.true_or]
  · exact hx c hc

def isQuote (c : Char) : Bool := c == '"' || c == '\''

def bracketOf? (c : Char) : Option Bool :=
  if c == '(' then some true else if c == ')' then some false else none

/-- A stretch of text: a character that stands for itself, or the text between two quotes. -/
inductive Part where
  | char (c : Char)
  | literal (inner : List Char)

def partsFrom : Nat → List Char → List Part
  | _, [] => []
  | skip + 1, _ :: s => partsFrom skip s
  | 0, c :: s =>
    match if isQuote c then Text.splitFirst (· == c) s else none with
    | some (inner, _) => .literal inner :: partsFrom (inner.length + 1) s
    | none => .char c :: partsFrom 0 s

def Part.char? : Part → Option Char
  | .char c => some c
  | .literal _ => none

def Part.literal? : Part → Option (List Char)
  | .char _ => none
  | .literal inner => some inner

def Part.bracket? : Part → Option Bool
  | .char c => bracketOf? c
  | .literal _ => none

/-- The text without what stands between quotes. -/
def outside (text : List Char) : List Char := (partsFrom 0 text).filterMap Part.char?

def literals (text : List Char) : List (List Char) := (partsFrom 0 text).filterMap Part.literal?

/-- The parentheses of a text open and close in pairs, and none stands between quotes. -/
structure Nested (text : List Char) : Prop where
  closes : nesting 0 ((outside text).filterMap bracketOf?) = some 0
  plain : ∀ inner ∈ literals text, ∀ c ∈ inner, bracketOf? c = none

def Unmarked (c : Char) : Prop := isQuote c = false ∧ bracketOf? c = none

/-- What the lexer takes for one token is a literal, or a parenthesis, or has no mark in it. -/
inductive Takes (c : Char) (s : List Char) : Option Token → Nat → Prop
  | literal {inner rest : List Char} (hc : isQuote c)
    (hs : Text.splitFirst (· == c) s = some (inner, rest)) :
    Takes c s (some (.str (.ofList inner))) (inner.length + 1)
  | unmarked {t? : Option Token} {w : Nat} (hc : isQuote c = false) (hw : w ≤ s.length)
    (hs : ∀ e ∈ s.take w, Unmarked e)
    (ht : t?.toList.filterMap Token.bracket? = (bracketOf? c).toList) : Takes c s t? w

theorem unmarked_of {p : Char → Bool} {c : Char} (h : p c)
    (hp : ['"', '\'', '(', ')'].any p = false) : Unmarked c := by
  have hne : ∀ m ∈ ['"', '\'', '(', ')'], c ≠ m := by
    rintro m hm rfl
    exact List.any_eq_false.mp hp c hm h
  simp only [List.mem_cons, List.not_mem_nil, or_false, forall_eq_or_imp, forall_eq] at hne
  obtain ⟨hd, hs, ho, hc⟩ := hne
  exact ⟨by simp [isQuote, hd, hs], by simp [bracketOf?, ho, hc]⟩

theorem length_symbol_le {c : Char} {s : List Char} {op : Operator} (h : operator? c s = .ok op) :
    op.symbol.length - 1 ≤ s.length ∧ ∀ e ∈ s.take (op.symbol.length - 1), Unmarked e := by
  unfold operator? at h
  split at h
  all_goals
    cases h
    try exact ⟨Nat.zero_le _, nofun⟩
  all_goals
    refine ⟨Nat.succ_le_succ (Nat.zero_le _), ?_⟩
    rintro e he
    obtain rfl := List.mem_singleton.mp he
    exact ⟨rfl, rfl⟩

theorem takes_lexeme {c : Char} {s : List Char} {t? : Option Token} {w : Nat}
    (h : lexeme c s = .ok (t?, w)) : Takes c s t? w := by
  have hnone : ∀ e ∈ s.take 0, Unmarked e := nofun
  unfold lexeme at h
  split at h
  · next hb =>
    cases h
    obtain ⟨hq, hbr⟩ := unmarked_of hb (by decide)
    exact .unmarked hq (Nat.zero_le _) hnone (by rw [hbr]; rfl)
  split at h
  · next ho =>
    cases h
    cases eq_of_beq ho
    exact .unmarked rfl (Nat.zero_le _) hnone rfl
  split at h
  · next hc =>
    cases h
    cases eq_of_beq hc
    exact .unmarked rfl (Nat.zero_le _) hnone rfl
  next ho hc =>
  have hbr : bracketOf? c = none := by rw [bracketOf?, if_neg ho, if_neg hc]
  split at h
  · next hq =>
    split at h
    · next inner rest hs =>
      cases h
      exact .literal hq hs
    · cases h
  next hq =>
  have hq := Bool.eq_false_iff.mpr hq
  split at h
  · dsimp only at h
    split at h
    · cases h
      obtain ⟨hp, hn⟩ := numeral_spec (c :: s)
      generalize numeral (c :: s) = t at hp hn
      cases t with
      | nil => exact .unmarked hq (Nat.zero_le _) hnone (by rw [hbr]; rfl)
      | cons d t =>
        have hp := (List.cons_prefix_cons.mp hp).2
        refine .unmarked hq hp.length_le (fun e he => ?_) (by rw [hbr]; rfl)
        rw [List.length_cons, Nat.add_sub_cancel, ← List.prefix_iff_eq_take.mp hp] at he
        exact unmarked_of (hn e (List.mem_cons_of_mem _ he)) (by decide)
    · cases h
  split at h
  · cases h
    have hp := List.takeWhile_prefix (l := s) isWordChar
    refine .unmarked hq hp.length_le (fun e he => ?_) (by rw [hbr]; rfl)
    rw [← List.prefix_iff_eq_take.mp hp] at he
    exact unmarked_of (List.mem_takeWhile_imp he) (by decide +kernel)
  · cases ho : operator? c s with
    | error e =>
      rw [ho] at h
      cases h
    | ok op =>
      rw [ho] at h
      cases h
      obtain ⟨hw, hs⟩ := length_symbol_le ho
      exact .unmarked hq hw hs (by rw [hbr]; rfl)

theorem Takes.width_le {c : Char} {s : List Char} {t? : Option Token} {w : Nat}
    (h : Takes c s t? w) : w ≤ s.length := by
  cases h with
  | literal hc hs =>
    obtain ⟨mark, -, rfl⟩ := Text.splitFirst_eq_some hs
    simp
  | unmarked _ hw => exact hw

theorem lexFrom_closing (s : List Char) (skip : Nat) (h : skip ≤ s.length) :
    lexFrom skip (s ++ [')']) = (lexFrom skip s).map (· ++ [.closing]) := by
  induction s generalizing skip with
  | nil =>
    obtain rfl := Nat.le_zero.mp h
    rfl
  | cons c s ih =>
    cases skip with
    | succ skip => exact ih skip (Nat.le_of_succ_le_succ h)
    | zero =>
      rw [List.cons_append, lexFrom, lexFrom, lexeme_closing]
      cases hl : lexeme c s with
      | error e => rfl
      | ok p =>
        obtain ⟨t?, w⟩ := p
        dsimp only
        rw [ih w (takes_lexeme hl).width_le]
        cases lexFrom w s with
        | error e => rfl
        | ok ts => exact congrArg Except.ok (List.append_assoc ..).symm

theorem partsFrom_char {c : Char} {s : List Char}
    (hc : (if isQuote c then Text.splitFirst (· == c) s else none) = none) :
    partsFrom 0 (c :: s) = .char c :: partsFrom 0 s := by
  rw [partsFrom, hc]

theorem partsFrom_quote {c : Char} {s inner rest : List Char} (hc : isQuote c)
    (hs : Text.splitFirst (· == c) s = some (inner, rest)) :
    partsFrom 0 (c :: s) = .literal inner :: partsFrom (inner.length + 1) s := by
  rw [partsFrom, if_pos hc, hs]

theorem brackets_partsFrom_take (s : List Char) (w : Nat) (h : ∀ e ∈ s.take w, Unmarked e) :
    (partsFrom 0 s).filterMap Part.bracket? = (partsFrom w s).filterMap Part.bracket? := by
  induction s generalizing w with
  | nil => rfl
  | cons c s ih =>
    cases w with
    | zero => rfl
    | succ w =>
      rw [List.take_succ_cons] at h
      obtain ⟨hq, hb⟩ := h c List.mem_cons_self
      have hp : (Part.char c).bracket? = none := hb
      rw [partsFrom_char (by rw [hq]; rfl), List.filterMap_cons_none hp]
      exact ih w fun e he => h e (List.mem_cons_of_mem _ he)

/-- The tokens have the parentheses of the text outside its literals. -/
theorem brackets_lexFrom (s : List Char) (skip : Nat) {ts : List Token}
    (h : lexFrom skip s = .ok ts) :
    ts.filterMap Token.bracket? = (partsFrom skip s).filterMap Part.bracket? := by
  induction s generalizing skip ts with
  | nil =>
    cases skip <;> cases h <;> rfl
  | cons c s ih =>
    cases skip with
    | succ skip => exact ih skip h
    | zero =>
      rw [lexFrom] at h
      cases hl : lexeme c s with
      | error e => rw [hl] at h; cases h
      | ok p =>
        obtain ⟨t?, w⟩ := p
        rw [hl] at h
        dsimp only at h
        cases hr : lexFrom w s with
        | error e => rw [hr] at h; cases h
        | ok rest =>
          rw [hr] at h
          cases h
          have hrest := ih w hr
          rw [List.filterMap_append, hrest]
          cases takes_lexeme hl with
          | @literal inner after hc hs =>
            rw [partsFrom_quote hc hs]
            rfl
          | unmarked hc _ hs ht =>
            rw [ht, partsFrom_char (by rw [hc]; rfl), List.filterMap_cons,
              brackets_partsFrom_take s w hs]
            cases hb : bracketOf? c <;> simp [Part.bracket?, hb]

theorem brackets_outside (text : List Char) :
    (outside text).filterMap bracketOf? = (partsFrom 0 text).filterMap Part.bracket? := by
  rw [outside, List.filterMap_filterMap]
  congr 1
  funext part
  cases part <;> rfl

/-- Without parentheses in its literals, a text has those that are outside of them. -/
theorem brackets_partsFrom (text : List Char) (skip : Nat)
    (hs : ∀ c ∈ text.take skip, bracketOf? c = none)
    (hl : ∀ inner ∈ (partsFrom skip text).filterMap Part.literal?, ∀ c ∈ inner,
      bracketOf? c = none) :
    (partsFrom skip text).filterMap Part.bracket? = text.filterMap bracketOf? := by
  induction text generalizing skip with
  | nil => cases skip <;> rfl
  | cons c text ih =>
    cases skip with
    | succ skip =>
      rw [List.take_succ_cons] at hs
      rw [List.filterMap_cons_none (hs c List.mem_cons_self)]
      exact ih skip (fun d hd => hs d (List.mem_cons_of_mem _ hd)) hl
    | zero =>
      cases hsplit : if isQuote c then Text.splitFirst (· == c) text else none with
      | none =>
        rw [partsFrom_char hsplit] at hl ⊢
        have hi := ih 0 nofun hl
        rw [List.filterMap_cons, List.filterMap_cons, hi]
        rfl
      | some split =>
        obtain ⟨inner, rest⟩ := split
        obtain ⟨hq, hs⟩ := Option.ite_none_right_eq_some.mp hsplit
        have hb : bracketOf? c = none := by
          simp only [isQuote, Bool.or_eq_true, beq_iff_eq] at hq
          rcases hq with rfl | rfl <;> rfl
        rw [partsFrom_quote hq hs] at hl ⊢
        obtain ⟨mark, hm, rfl⟩ := Text.splitFirst_eq_some hs
        obtain rfl := eq_of_beq hm
        have hi : ∀ d ∈ (inner ++ mark :: rest).take (inner.length + 1), bracketOf? d = none := by
          intro d hd
          rw [List.take_length_add_append, List.mem_append] at hd
          rcases hd with hd | hd
          · exact hl inner List.mem_cons_self d hd
          · obtain rfl := List.mem_singleton.mp hd
            exact hb
        rw [List.filterMap_cons_none hb]
        exact ih _ hi fun i h => hl i (List.mem_cons_of_mem _ h)

theorem Nested.closes_lex {text : List Char} (h : Nested text) {ts : List Token}
    (hl : lexFrom 0 text = .ok ts) : Closes 0 ts := by
  rw [Closes, brackets_lexFrom text 0 hl, ← brackets_outside]
  exact h.closes

theorem Nested.nesting_eq {text : List Char} (h : Nested text) :
    nesting 0 (text.filterMap bracketOf?) = some 0 := by
  rw [← brackets_partsFrom text 0 nofun h.plain, ← brackets_outside]
  exact h.closes

theorem lexFrom_enclosed (text : List Char) :
    lexFrom 0 ('(' :: (text ++ [')'])) =
      (lexFrom 0 text).map fun ts => .opening :: (ts ++ [.closing]) := by
  have h : lexFrom 0 ('(' :: (text ++ [')'])) =
      (lexFrom 0 (text ++ [')'])).map (.opening :: ·) := rfl
  rw [h, lexFrom_closing text 0 (Nat.zero_le _)]
  cases lexFrom 0 text <;> rfl

theorem toOption_congr {α β ε δ : Type} {x y : Except ε α} (h : x.toOption = y.toOption)
    (f : α → β) (g g' : ε → δ) :
    ((x.map f).mapError g).toOption = ((y.map f).mapError g').toOption := by
  cases x <;> cases y <;> cases h <;> rfl

/-- An expression in parentheses has the value of the expression, if it is one at all. -/
theorem evaluate_enclosed {text : String} (h : Nested text.toList) :
    (evaluate ("(" ++ text ++ ")")).toOption = (evaluate text).toOption ∨
      (evaluate ("(" ++ text ++ ")")).toOption = none ∧ evaluate text = .ok "" := by
  have ht : ("(" ++ text ++ ")").toList = '(' :: (text.toList ++ [')']) := by
    simp [String.toList_append]
  have hl : lex ("(" ++ text ++ ")") =
      (lex text).map fun ts => .opening :: (ts ++ [.closing]) := by
    rw [lex, ht, lexFrom_enclosed]
    rfl
  unfold evaluate evaluateTokens
  rw [hl]
  cases hx : lex text with
  | error e => exact .inl rfl
  | ok ts =>
    have hv := valueOf_enclosed (h.closes_lex hx)
    cases ts with
    | nil =>
      have hn := toOption_congr hv Value.text (EvalError.expression ("(" ++ text ++ ")"))
        (EvalError.expression text)
      exact .inr ⟨hn, rfl⟩
    | cons t ts => exact .inl (toOption_congr hv _ _ _)

end Showrunner.Expression
