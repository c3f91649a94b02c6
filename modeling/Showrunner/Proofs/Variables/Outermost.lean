import Showrunner.Proofs.Run
import Showrunner.Proofs.Variables.Escape

/-!
How a text is cut at its parentheses into the expressions that are asked for and the text between
them. Main statement: `evaluate_outermost`.
-/

namespace Showrunner.Span

inductive Mark where
  | opening
  | closing
  | char (c : Char)
deriving DecidableEq, Repr

def Mark.toChar : Mark → Char
  | opening => '('
  | closing => ')'
  | char c => c

def spell (ms : List Mark) : String := .ofList (ms.map Mark.toChar)

def marksFrom : List Char → List Mark
  | [] => []
  | '\\' :: p :: s =>
    if isParenthesis p then .char p :: marksFrom s else .char '\\' :: marksFrom (p :: s)
  | '(' :: s => .opening :: marksFrom s
  | ')' :: s => .closing :: marksFrom s
  | c :: s => .char c :: marksFrom s

def marks (text : String) : List Mark := marksFrom text.toList

inductive Nested : List Mark → Prop
  | nil : Nested []
  | char (c : Char) {ms : List Mark} (h : Nested ms) : Nested (.char c :: ms)
  | group {inner ms : List Mark} (h : Nested inner) (h' : Nested ms) :
    Nested (.opening :: (inner ++ .closing :: ms))

/-- A part of a text: a mark that is in no expression, or an expression, by the marks between its
parentheses. -/
inductive Part where
  | outside (m : Mark)
  | expression (inner : List Mark)
deriving DecidableEq, Repr

namespace Part

def marks : Part → List Mark
  | outside m => [m]
  | expression inner => .opening :: (inner ++ [.closing])

def WellFormed : Part → Prop
  | outside m => m ≠ .opening
  | expression inner => Nested inner

def text? : Part → Option String
  | outside _ => none
  | expression inner => some (spell (expression inner).marks)

def value {m : Type → Type} [Monad m] (evaluator : String → m String) : Part → m String
  | outside m => pure (spell [m])
  | expression inner => evaluator (spell (expression inner).marks)

def segment : Part → Segment
  | outside m => .char m.toChar
  | expression inner => .span ((expression inner).marks.map Mark.toChar)

end Part

def Unclosed : List Mark → Prop
  | .opening :: ms => ∀ inner after, Nested inner → ms ≠ inner ++ .closing :: after
  | _ => False

/-- The marks are cut into parts, up to a parenthesis that is never closed. -/
structure Cut (ms : List Mark) (parts : List Part) (rest : List Mark) : Prop where
  whole : parts.flatMap Part.marks ++ rest = ms
  wellFormed : ∀ p ∈ parts, p.WellFormed
  unclosed : rest ≠ [] → Unclosed rest

/-- The segments of some marks inside `depth` open parentheses. -/
def segmentsOf (opened : List Char) : Nat → List Mark → List Segment
  | _, [] => opened.map .char
  | depth, .char c :: ms => place c opened depth fun opened => segmentsOf opened depth ms
  | depth, .opening :: ms => segmentsOf (opened ++ ['(']) (depth + 1) ms
  | 0, .closing :: ms => .char ')' :: segmentsOf opened 0 ms
  | 1, .closing :: ms => .span (opened ++ [')']) :: segmentsOf [] 0 ms
  | depth + 2, .closing :: ms => segmentsOf (opened ++ [')']) (depth + 1) ms

theorem segmentsFrom_eq (opened : List Char) (depth : Nat) (s : List Char) :
    segmentsFrom opened depth s = segmentsOf opened depth (marksFrom s) := by
  induction s using marksFrom.induct generalizing opened depth with
  | case1 => simp [segmentsFrom, marksFrom, segmentsOf]
  | case2 p s hp ih => simp [segmentsFrom, marksFrom, segmentsOf, hp, ih]
  | case3 p s hp ih => simp [segmentsFrom, marksFrom, segmentsOf, hp, ih]
  | case4 s ih => simp [segmentsFrom, marksFrom, segmentsOf, ih]
  | case5 s ih =>
    rcases depth with _ | _ | depth <;> simp [segmentsFrom, marksFrom, segmentsOf, ih]
  | case6 c s hb ho hc ih =>
    have hp : isParenthesis c = false := by simpa [isParenthesis] using And.intro ho hc
    have hr : c = '\\' → ∀ d ∈ s.head?, isParenthesis d = false := by
      intro he d hd
      cases s with
      | nil => cases hd
      | cons e s => exact (hb e s he rfl).elim
    rw [segmentsFrom_cons hp hr, marksFrom.eq_5 c s hb ho hc, segmentsOf]
    simp only [ih]

section

variable {ms inner after : List Mark}

theorem segmentsOf_nested (h : Nested inner) (opened : List Char) (depth : Nat)
    (after : List Mark) : segmentsOf opened (depth + 1) (inner ++ after) =
      segmentsOf (opened ++ inner.map Mark.toChar) (depth + 1) after := by
  induction h generalizing opened depth after with
  | nil => simp
  | char c h ih =>
    rw [List.cons_append, segmentsOf, place, if_neg (Nat.succ_ne_zero depth), ih]
    simp [Mark.toChar]
  | group h h' ih ih' =>
    rw [List.cons_append, List.append_assoc, segmentsOf, ih, List.cons_append, segmentsOf, ih']
    simp [Mark.toChar]

theorem segmentsOf_expression (h : Nested inner) (after : List Mark) :
    segmentsOf [] 0 ((Part.expression inner).marks ++ after) =
      (Part.expression inner).segment :: segmentsOf [] 0 after := by
  rw [Part.marks, List.cons_append, List.append_assoc, segmentsOf, segmentsOf_nested h,
    List.singleton_append, segmentsOf]
  simp [Part.segment, Part.marks, Mark.toChar]

theorem segmentsOf_outside {m : Mark} (h : m ≠ .opening) (after : List Mark) :
    segmentsOf [] 0 ((Part.outside m).marks ++ after) =
      (Part.outside m).segment :: segmentsOf [] 0 after := by
  cases m with
  | opening => exact absurd rfl h
  | closing | char c => rfl

/-- The marks before the parenthesis that closes the outermost of `depth + 1` open ones, and the
marks behind it. -/
def close : Nat → List Mark → Option (List Mark × List Mark)
  | _, [] => none
  | 0, .closing :: ms => some ([], ms)
  | depth + 1, .closing :: ms => (close depth ms).map fun split => (.closing :: split.1, split.2)
  | depth, .opening :: ms =>
    (close (depth + 1) ms).map fun split => (.opening :: split.1, split.2)
  | depth, .char c :: ms => (close depth ms).map fun split => (.char c :: split.1, split.2)

theorem close_nested (h : Nested inner) (depth : Nat) (after : List Mark) :
    close depth (inner ++ after) =
      (close depth after).map fun split => (inner ++ split.1, split.2) := by
  induction h generalizing depth after with
  | nil => simp
  | char c h ih =>
    rw [List.cons_append, close, ih, Option.map_map]
    rfl
  | group h h' ih ih' =>
    rw [List.cons_append, List.append_assoc, close, ih, List.cons_append, close, ih']
    simp [Function.comp_def]

theorem close_closing (h : Nested inner) (after : List Mark) :
    close 0 (inner ++ .closing :: after) = some (inner, after) := by
  rw [close_nested h, close]
  simp

/-- Nested marks, and after each of `depth` closing parentheses nested marks again. -/
def Closing : Nat → List Mark → Prop
  | 0, ms => Nested ms
  | depth + 1, ms => ∃ inner after, Nested inner ∧ Closing depth after ∧
      ms = inner ++ .closing :: after

theorem Closing.char {depth : Nat} (h : Closing depth ms) (c : Char) :
    Closing depth (.char c :: ms) := by
  cases depth with
  | zero => exact Nested.char c h
  | succ depth =>
    obtain ⟨inner, after, hi, ha, rfl⟩ := h
    exact ⟨_, after, .char c hi, ha, rfl⟩

theorem Closing.group {depth : Nat} (h : Closing (depth + 1) ms) :
    Closing depth (.opening :: ms) := by
  obtain ⟨inner, after, hi, ha, rfl⟩ := h
  cases depth with
  | zero => exact Nested.group hi ha
  | succ depth =>
    obtain ⟨inner', after', hi', ha', rfl⟩ := ha
    exact ⟨_, after', .group hi hi', ha', by simp⟩

theorem close_eq_some {depth : Nat} (h : close depth ms = some (inner, after)) :
    Closing depth inner ∧ ms = inner ++ .closing :: after := by
  induction ms generalizing depth inner with
  | nil => simp [close] at h
  | cons m ms ih =>
    cases m with
    | opening =>
      rw [close] at h
      obtain ⟨⟨inner, after⟩, hc, he⟩ := Option.map_eq_some_iff.mp h
      cases he
      obtain ⟨hi, rfl⟩ := ih hc
      exact ⟨hi.group, rfl⟩
    | char c =>
      rw [close] at h
      obtain ⟨⟨inner, after⟩, hc, he⟩ := Option.map_eq_some_iff.mp h
      cases he
      obtain ⟨hi, rfl⟩ := ih hc
      exact ⟨hi.char c, rfl⟩
    | closing =>
      cases depth with
      | zero =>
        cases h
        exact ⟨.nil, rfl⟩
      | succ depth =>
        rw [close] at h
        obtain ⟨⟨inner, after⟩, hc, he⟩ := Option.map_eq_some_iff.mp h
        cases he
        obtain ⟨hi, rfl⟩ := ih hc
        exact ⟨⟨[], inner, .nil, hi, rfl⟩, rfl⟩

theorem unclosed_iff : Unclosed (.opening :: ms) ↔ close 0 ms = none := by
  constructor
  · intro h
    by_contra hc
    obtain ⟨⟨inner, after⟩, hc⟩ := Option.ne_none_iff_exists'.mp hc
    obtain ⟨hi, hm⟩ := close_eq_some hc
    exact h inner after hi hm
  · rintro hc inner after hi rfl
    rw [close_closing hi] at hc
    cases hc

theorem segmentsOf_of_close_eq_none {depth : Nat} (h : close depth ms = none)
    (opened : List Char) :
    segmentsOf opened (depth + 1) ms = (opened ++ ms.map Mark.toChar).map .char := by
  induction ms generalizing depth opened with
  | nil => simp [segmentsOf]
  | cons m ms ih =>
    cases m with
    | opening =>
      rw [close, Option.map_eq_none_iff] at h
      simp [segmentsOf, ih h, Mark.toChar]
    | char c =>
      rw [close, Option.map_eq_none_iff] at h
      simp [segmentsOf, place, ih h, Mark.toChar]
    | closing =>
      cases depth with
      | zero => cases h
      | succ depth =>
        rw [close, Option.map_eq_none_iff] at h
        simp [segmentsOf, ih h, Mark.toChar]

theorem segmentsOf_unclosed (h : ms ≠ [] → Unclosed ms) :
    segmentsOf [] 0 ms = (ms.map Mark.toChar).map .char := by
  cases ms with
  | nil => rfl
  | cons m ms =>
    have hu := h (List.cons_ne_nil m ms)
    cases m with
    | opening =>
      rw [segmentsOf, segmentsOf_of_close_eq_none (unclosed_iff.mp hu)]
      rfl
    | closing | char c => exact hu.elim

end

def cut (ms : List Mark) : List Part × List Mark :=
  match ms with
  | [] => ([], [])
  | .opening :: ms =>
    match h : close 0 ms with
    | none => ([], .opening :: ms)
    | some (inner, after) =>
      have : after.length < ms.length + 1 := by
        obtain ⟨-, rfl⟩ := close_eq_some h
        simp
        omega
      (.expression inner :: (cut after).1, (cut after).2)
  | m :: ms => (.outside m :: (cut ms).1, (cut ms).2)
termination_by ms.length

section

variable {ms inner after : List Mark}

theorem cut_unclosed (h : close 0 ms = none) :
    cut (.opening :: ms) = ([], .opening :: ms) := by
  rw [cut]
  split
  · rfl
  · next hc =>
    rw [h] at hc
    cases hc

theorem cut_expression (h : close 0 ms = some (inner, after)) :
    cut (.opening :: ms) = (.expression inner :: (cut after).1, (cut after).2) := by
  rw [cut]
  split
  · next hc =>
    rw [h] at hc
    cases hc
  · next hc =>
    rw [h] at hc
    cases hc
    rfl

theorem cut_outside {m : Mark} (h : m ≠ .opening) :
    cut (m :: ms) = (.outside m :: (cut ms).1, (cut ms).2) := by
  rw [cut.eq_3 m ms h]

end

namespace Cut

variable {ms rest : List Mark} {parts : List Part}

theorem cons (h : Cut ms parts rest) {p : Part} (hp : p.WellFormed) :
    Cut (p.marks ++ ms) (p :: parts) rest where
  whole := by rw [List.flatMap_cons, List.append_assoc, h.whole]
  wellFormed := List.forall_mem_cons.mpr ⟨hp, h.wellFormed⟩
  unclosed := h.unclosed

theorem of_cut (ms : List Mark) : Cut ms (cut ms).1 (cut ms).2 := by
  induction ms using cut.induct with
  | case1 =>
    rw [cut]
    exact ⟨rfl, nofun, fun h => absurd rfl h⟩
  | case2 ms hc =>
    rw [cut_unclosed hc]
    exact ⟨rfl, nofun, fun _ => unclosed_iff.mpr hc⟩
  | case3 ms inner after hc _ ih =>
    obtain ⟨hi, rfl⟩ := close_eq_some hc
    rw [cut_expression hc]
    have hcons := ih.cons (p := .expression inner) hi
    rwa [Part.marks, List.cons_append, List.append_assoc] at hcons
  | case4 m ms hm ih =>
    rw [cut_outside hm]
    exact ih.cons (p := .outside m) hm

/-- Marks are cut in one way. -/
theorem cut_eq (h : Cut ms parts rest) : cut ms = (parts, rest) := by
  induction parts generalizing ms with
  | nil =>
    obtain rfl : rest = ms := h.whole
    cases rest with
    | nil => rw [cut]
    | cons m rest =>
      have hu := h.unclosed (List.cons_ne_nil m rest)
      cases m with
      | opening => exact cut_unclosed (unclosed_iff.mp hu)
      | closing | char c => exact hu.elim
  | cons p parts ih =>
    obtain ⟨hp, hparts⟩ := List.forall_mem_cons.mp h.wellFormed
    have htail := ih ⟨rfl, hparts, h.unclosed⟩
    have hwhole := h.whole
    rw [List.flatMap_cons, List.append_assoc] at hwhole
    rw [← hwhole]
    cases p with
    | outside m => rw [Part.marks, List.singleton_append, cut_outside hp, htail]
    | expression inner =>
      have hc := close_closing hp (parts.flatMap Part.marks ++ rest)
      rw [Part.marks, List.cons_append, List.append_assoc, List.singleton_append,
        cut_expression hc, htail]

theorem unique {parts' : List Part} {rest' : List Mark} (h : Cut ms parts rest)
    (h' : Cut ms parts' rest') : parts' = parts ∧ rest' = rest := by
  have he := h'.cut_eq.symm.trans h.cut_eq
  exact ⟨congrArg Prod.fst he, congrArg Prod.snd he⟩

theorem segmentsOf_eq (h : Cut ms parts rest) :
    segmentsOf [] 0 ms = parts.map Part.segment ++ (rest.map Mark.toChar).map .char := by
  induction parts generalizing ms with
  | nil =>
    obtain rfl : rest = ms := h.whole
    exact segmentsOf_unclosed h.unclosed
  | cons p parts ih =>
    obtain ⟨hp, hparts⟩ := List.forall_mem_cons.mp h.wellFormed
    have htail := ih ⟨rfl, hparts, h.unclosed⟩
    rw [← h.whole, List.flatMap_cons, List.append_assoc, List.map_cons, List.cons_append, ← htail]
    cases p with
    | outside m => exact segmentsOf_outside hp _
    | expression inner => exact segmentsOf_expression hp _

end Cut

section

variable {m : Type → Type} [Monad m] [LawfulMonad m]

theorem fill_chars (evaluator : String → m String) (text : List Char) :
    fill evaluator (text.map .char) = pure (.ofList text) := by
  induction text with
  | nil => rfl
  | cons c text ih => simp [fill, ih, String.ofList_cons]

theorem fill_parts (evaluator : String → m String) (parts : List Part) (text : List Char) :
    fill evaluator (parts.map Part.segment ++ text.map .char) = do
      let values ← parts.mapM (Part.value evaluator)
      return String.join values ++ .ofList text := by
  induction parts with
  | nil => simp [fill_chars]
  | cons p parts ih =>
    cases p with
    | outside c =>
      simp [Part.segment, fill, ih, Part.value, spell, String.append_assoc]
    | expression inner =>
      simp [Part.segment, fill, ih, Part.value, spell, String.append_assoc]

end

def recorded (evaluator : Evaluator) (text : String) :
    ExceptT EvalError (StateM (List String)) String := do
  modify (· ++ [text])
  evaluator text

/-- The texts that the evaluator is asked for when some are to be evaluated in turn: it is not
asked again once it fails. -/
def called (evaluator : Evaluator) : List String → List String
  | [] => []
  | text :: texts =>
    text :: match evaluator text with
      | .ok _ => called evaluator texts
      | .error _ => []

theorem run_recorded (evaluator : Evaluator) (text : String) (texts : List String) :
    (recorded evaluator text).run.run texts = (evaluator text, texts ++ [text]) := by
  cases h : evaluator text <;> simp [recorded, h] <;> rfl

theorem run_mapM_recorded (evaluator : Evaluator) (parts : List Part) (texts : List String) :
    (parts.mapM (Part.value (recorded evaluator))).run.run texts =
      (parts.mapM (Part.value evaluator),
        texts ++ called evaluator (parts.filterMap Part.text?)) := by
  induction parts generalizing texts with
  | nil => exact Prod.ext rfl (List.append_nil texts).symm
  | cons p parts ih =>
    rw [List.mapM_cons, List.mapM_cons]
    cases p with
    | outside m =>
      rw [Part.value, Part.value, pure_bind, pure_bind, run_bind_return, ih]
      rfl
    | expression inner =>
      have hr := run_recorded evaluator (spell (Part.expression inner).marks) texts
      have htexts : (Part.expression inner :: parts).filterMap Part.text? =
          spell (Part.expression inner).marks :: parts.filterMap Part.text? :=
        List.filterMap_cons_some rfl
      rw [htexts, called, Part.value, Part.value]
      cases hv : evaluator (spell (Part.expression inner).marks) with
      | error e =>
        rw [hv] at hr
        rw [run_bind_error hr]
        rfl
      | ok value =>
        rw [hv] at hr
        rw [run_bind_ok hr, run_bind_return, ih, List.append_assoc]
        rfl

/-- There is one way to cut a text into its outermost expressions and what is between them, up to a
parenthesis that is never closed. The evaluator is asked for each expression once, from left to
right, until it fails, and the values take the places of the expressions. -/
theorem evaluate_outermost (evaluator : Evaluator) (text : String) :
    ∃ parts rest, Cut (marks text) parts rest ∧
      (∀ parts' rest', Cut (marks text) parts' rest' → parts' = parts ∧ rest' = rest) ∧
      evaluate evaluator text = (parts.mapM (Part.value evaluator)).map
        (fun values => String.join values ++ spell rest) ∧
      (evaluate (recorded evaluator) text).run.run [] =
        (evaluate evaluator text, called evaluator (parts.filterMap Part.text?)) := by
  have hc := Cut.of_cut (marks text)
  have hs : segments text = _ := (segmentsFrom_eq [] 0 text.toList).trans hc.segmentsOf_eq
  have he : evaluate evaluator text = ((cut (marks text)).1.mapM (Part.value evaluator)).map
      fun values => String.join values ++ spell (cut (marks text)).2 := by
    rw [evaluate, hs, fill_parts]
    rfl
  refine ⟨_, _, hc, fun _ _ h => hc.unique h, he, ?_⟩
  rw [he, evaluate, hs, fill_parts, run_bind_return, run_mapM_recorded]
  rfl

example : cut (marks "a) ((1) \\) 2) (b (c)") =
    ([.outside (.char 'a'), .outside .closing, .outside (.char ' '),
      .expression [.opening, .char '1', .closing, .char ' ', .char ')', .char ' ', .char '2'],
      .outside (.char ' ')],
      [.opening, .char 'b', .char ' ', .opening, .char 'c', .closing]) := by
  cbv

end Showrunner.Span
