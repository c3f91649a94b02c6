import Showrunner.Proofs.Text.Lowercase
import Showrunner.Proofs.Text.Split
import Showrunner.Variables.Expansion
import Showrunner.Variables.Guard
import Showrunner.Variables.Span

namespace Showrunner

namespace Variables

/-- The text refers to no variable, holds no expression, and escapes nothing. -/
def Literal (text : List Char) : Prop := ∀ c ∈ text, c ∉ ['$', '(', ')', '\\']

instance (text : List Char) : Decidable (Literal text) :=
  List.decidableBAll (· ∉ ['$', '(', ')', '\\']) text

def reserved : List String :=
  ["SECOND", "MINUTE", "HOUR", "DAY", "MONTH", "YEAR", "WEEKDAY", "MOUSEX", "MOUSEY", "FRAMERATE",
    "WIDTH", "HEIGHT", "CENTERX", "CENTREX", "CENTERY", "CENTREY", "PERCENT", "CHANCE", "RANDOMX",
    "RANDOMY"]

def drawing : List String := ["PERCENT", "CHANCE", "RANDOMX", "RANDOMY"]

/-- A name that is a script's to give: letters, digits and underscores, and not reserved. -/
structure Ownable (name : String) : Prop where
  nonempty : name ≠ ""
  chars : ∀ c ∈ name.toList, isNameChar c
  free : name ∉ reserved

variable {text rest name : List Char}

theorem Literal.append {after : List Char} (h : Literal text) (h' : Literal after) :
    Literal (text ++ after) := by
  intro c hc
  rcases List.mem_append.mp hc with hc | hc
  · exact h c hc
  · exact h' c hc

theorem piecesFrom_literal (h : Literal text) (rest : List Char) :
    piecesFrom 0 (text ++ rest) = text.map .char ++ piecesFrom 0 rest := by
  induction text with
  | nil => rfl
  | cons c cs ih =>
    have hc := h c List.mem_cons_self
    obtain ⟨hd, hb⟩ : c ≠ '$' ∧ c ≠ '\\' := by
      constructor <;> rintro rfl <;> exact hc (by decide)
    rw [List.cons_append, piecesFrom, ih fun d hd => h d (List.mem_cons_of_mem _ hd)]
    simp [hd, hb]

theorem piecesFrom_length (text rest : List Char) :
    piecesFrom text.length (text ++ rest) = piecesFrom 0 rest := by
  induction text with
  | nil => rfl
  | cons c cs ih => exact ih

/-- A name in front of the text ends where the text begins: the text opens neither with a name
character nor with a colon or a point that has one behind it. -/
def EndsName : List Char → Prop
  | [] => True
  | c :: s => isNameChar c = false ∧ (c = ':' ∨ c = '.' → s.head?.any isNameChar = false)

instance : DecidablePred EndsName
  | [] => isTrue trivial
  | c :: _ => inferInstanceAs (Decidable (isNameChar c = false ∧ _))

theorem EndsName.space (rest : List Char) : EndsName (' ' :: rest) := by
  refine ⟨by decide, ?_⟩
  rintro (h | h) <;> cases h

theorem EndsName.nameFrom_eq (h : EndsName rest) (started : Bool) :
    nameFrom started rest = [] := by
  cases rest with
  | nil => rfl
  | cons c s =>
    obtain ⟨hc, hj⟩ := h
    by_cases hp : c = ':' ∨ c = '.'
    · simp [nameFrom, hc, hj hp]
    · obtain ⟨hcolon, hpoint⟩ := not_or.mp hp
      simp [nameFrom, hc, hcolon, hpoint]

theorem nameFrom_append (hn : ∀ c ∈ name, isNameChar c) (hr : EndsName rest) (started : Bool) :
    nameFrom started (name ++ rest) = name := by
  induction name generalizing started with
  | nil => exact hr.nameFrom_eq started
  | cons c cs ih =>
    have hc : isNameChar c := hn c List.mem_cons_self
    simp [nameFrom, hc, ih fun d hd => hn d (List.mem_cons_of_mem _ hd)]

theorem reference?_append (hne : name ≠ []) (hn : ∀ c ∈ name, isNameChar c)
    (hr : EndsName rest) : reference? (name ++ rest) = some (name, false, name.length) := by
  have hf := nameFrom_append hn hr false
  cases name with
  | nil => exact absurd rfl hne
  | cons c cs =>
    have hb : c ≠ '\x7b' := by
      rintro rfl
      exact absurd (hn _ List.mem_cons_self) (by decide)
    unfold reference?
    split
    · next he => exact absurd (List.cons.inj he).1 hb
    · rw [hf]

theorem reference?_braced (hne : name ≠ []) (hb : '\x7d' ∉ name) (rest : List Char) :
    reference? ('\x7b' :: (name ++ '\x7d' :: rest)) = some (name, true, name.length + 2) := by
  have hs : Text.splitFirst (· == '\x7d') (name ++ '\x7d' :: rest) = some (name, rest) :=
    Text.splitFirst_append (fun c hc => beq_false_of_ne fun (h : c = '\x7d') => hb (h ▸ hc)) rfl
      rest
  rw [reference?, hs]
  cases name with
  | nil => exact absurd rfl hne
  | cons c cs => rfl

theorem piecesFrom_bare (hne : name ≠ []) (hn : ∀ c ∈ name, isNameChar c) (hr : EndsName rest) :
    piecesFrom 0 ('$' :: (name ++ rest)) = .reference name false :: piecesFrom 0 rest := by
  rw [piecesFrom, reference?_append hne hn hr]
  simp [piecesFrom_length]

theorem piecesFrom_braced (hne : name ≠ []) (hb : '\x7d' ∉ name) (rest : List Char) :
    piecesFrom 0 ('$' :: '\x7b' :: (name ++ '\x7d' :: rest)) =
      .reference name true :: piecesFrom 0 rest := by
  have hrest := piecesFrom_length ('\x7b' :: (name ++ ['\x7d'])) rest
  rw [List.cons_append, List.append_assoc, List.singleton_append] at hrest
  have hl : ('\x7b' :: (name ++ ['\x7d'])).length = name.length + 2 := by simp
  rw [piecesFrom, reference?_braced hne hb, ← hl]
  simpa using hrest

theorem pieces_reference {before name after : String} (hb : Literal before.toList)
    (hn : Ownable name) (ha : Literal after.toList) :
    pieces (before ++ "$" ++ name ++ " " ++ after) =
      before.toList.map .char ++ (.reference name.toList false ::
        (' ' :: after.toList).map .char) := by
  have hl : (before ++ "$" ++ name ++ " " ++ after).toList =
      before.toList ++ '$' :: (name.toList ++ ' ' :: after.toList) := by
    simp [String.toList_append]
  have hne : name.toList ≠ [] := fun h => hn.nonempty (String.toList_eq_nil_iff.mp h)
  have hs : Literal (' ' :: after.toList) := by
    intro c hc
    rcases List.mem_cons.mp hc with rfl | hc
    · decide
    · exact ha c hc
  have hrest := piecesFrom_literal hs []
  rw [List.append_nil, piecesFrom, List.append_nil] at hrest
  rw [pieces, hl, piecesFrom_literal hb, piecesFrom_bare hne hn.chars (.space _), hrest]

variable {v : Variables} {scene : String} {stage : Stage} {d : Dice}

theorem expandPieces_literal (v : Variables) (scene : String) (stage : Stage) (d : Dice)
    (text : List Char) (ps : List Piece) :
    v.expandPieces scene stage d (text.map .char ++ ps) =
      { v.expandPieces scene stage d ps with
        text := .ofList text ++ (v.expandPieces scene stage d ps).text } := by
  induction text with
  | nil => simp
  | cons c cs ih =>
    rw [List.map_cons, List.cons_append, expandPieces, ih]
    simp [String.ofList_cons, String.append_assoc]

theorem expand_literal {text : String} (h : Literal text.toList) (v : Variables) (scene : String)
    (stage : Stage) (d : Dice) : v.expand text scene stage d = ⟨text, [], d⟩ := by
  have hp := piecesFrom_literal h []
  have he := expandPieces_literal v scene stage d text.toList []
  rw [List.append_nil, piecesFrom] at hp
  rw [expand, pieces, hp, he]
  simp [expandPieces]

theorem random?_eq_none_iff (v : Variables) (name : String) (d : Dice) :
    v.random? name d = none ↔ name ∉ drawing := by
  unfold random?
  split <;> simp_all [drawing]

theorem not_mem_drawing {name : String} (hn : name ∉ reserved) : name ∉ drawing := by
  have hr : ∀ r ∈ drawing, r ∈ reserved := by decide
  exact fun h => hn (hr name h)

theorem fixed?_of_not_mem {name : String} (hn : name ∉ reserved) (v : Variables) :
    v.fixed? name = none := by
  unfold fixed?
  split <;> first | rfl | exact absurd (by decide) hn

/-- A name that draws nothing means what it is settled to mean, unless it may end at a point. -/
theorem resolve?_settled (hd : String.ofList name ∉ drawing) (braced : Bool)
    (hp : braced = false → '.' ∉ name) :
    v.resolve? name braced scene stage d = (v.settled? (.ofList name) scene stage, d) := by
  have hl : v.lookup? (.ofList name) scene stage d =
      (v.settled? (.ofList name) scene stage, d) := by
    rw [lookup?, (v.random?_eq_none_iff _ d).mpr hd]
  rw [resolve?, hl]
  cases v.settled? (.ofList name) scene stage with
  | some value => rfl
  | none =>
    cases braced with
    | true => rfl
    | false =>
      have hs : Text.splitFirst (· == '.') name = none :=
        Text.splitFirst_eq_none fun c hc => beq_false_of_ne fun (h : c = '.') => hp rfl (h ▸ hc)
      simp [hs]

theorem point_not_mem (hn : ∀ c ∈ name, isNameChar c) : '.' ∉ name :=
  fun h => absurd (hn _ h) (by decide)

theorem resolve?_ownable {name value : String} (hn : Ownable name)
    (hv : v.get? name scene = some value) (braced : Bool) :
    v.resolve? name.toList braced scene stage d = (some value, d) := by
  -- None of the places that are asked before the variables has a value for such a name.
  have hf := fixed?_of_not_mem hn.free v
  have hpoint := point_not_mem hn.chars
  have hs : spriteValue? name scene stage = none := by
    have hdot : Text.splitLast (· == '.') name.toList = none :=
      Text.splitLast_eq_none fun c hc => beq_false_of_ne fun (h : c = '.') => hpoint (h ▸ hc)
    simp [spriteValue?, hdot]
  have hd : String.ofList name.toList ∉ drawing := by
    rw [String.ofList_toList]
    exact not_mem_drawing hn.free
  rw [resolve?_settled hd braced fun _ => hpoint]
  simp [settled?, hf, hs, hv]

theorem expand_reference {name value : String} (hn : Ownable name)
    (hv : v.get? name scene = some value) (stage : Stage) (d : Dice) {before after : String}
    (hb : Literal before.toList) (ha : Literal after.toList) :
    v.expand (before ++ "$" ++ name ++ " " ++ after) scene stage d =
      ⟨before ++ value ++ " " ++ after, [], d⟩ := by
  unfold expand
  rw [pieces_reference hb hn ha, expandPieces_literal, expandPieces, resolve?_ownable hn hv]
  have hrest := expandPieces_literal v scene stage d (' ' :: after.toList) []
  rw [List.append_nil] at hrest
  dsimp only
  rw [hrest]
  simp [expandPieces, String.append_assoc, String.ofList_cons]

end Variables

namespace Span

theorem segmentsFrom_literal {text : List Char} (h : Variables.Literal text) :
    segmentsFrom [] 0 text = text.map .char := by
  induction text with
  | nil => rfl
  | cons c cs ih =>
    have hc := h c List.mem_cons_self
    unfold segmentsFrom
    split
    · exact absurd (by decide) hc
    · exact absurd (by decide) hc
    · exact absurd (by decide) hc
    · rw [place, if_pos rfl, ih fun d hd => h d (List.mem_cons_of_mem _ hd)]
      rfl

theorem fill_literal (evaluator : Evaluator) (text : List Char) :
    fill evaluator (text.map .char) = .ok (.ofList text) := by
  induction text with
  | nil => rfl
  | cons c cs ih =>
    rw [List.map_cons, fill, ih]
    simp [Functor.map, Except.map, String.ofList_cons]

theorem evaluate_literal (evaluator : Evaluator) {text : String}
    (h : Variables.Literal text.toList) : evaluate evaluator text = .ok text := by
  rw [evaluate, segments, segmentsFrom_literal h, fill_literal, String.ofList_toList]

end Span

namespace Guard

theorem isTruthy_iff (word : String) :
    isTruthy word ↔ word ≠ "" ∧ word.toList.head? ≠ some '0' ∧
      Text.lowercase word ∉ ["false", "none", "no"] := by
  unfold isTruthy Text.lowercase
  rw [String.toList_ofList]
  have hw : word = "" ↔ word.toList = [] := String.toList_eq_nil_iff.symm
  cases hl : word.toList with
  | nil => simp [hw, hl, Text.lowerFrom]
  | cons c s =>
    obtain ⟨d, ds, he, hd⟩ := Text.exists_lowerFrom c s
    rw [he]
    by_cases hz : d = '0'
    · subst hz
      simp [hd.mp rfl]
    · have hc : c ≠ '0' := fun h => hz (hd.mpr h)
      have hne : word ≠ "" := by
        rw [ne_eq, hw, hl]
        exact List.cons_ne_nil c s
      simp only [ne_eq, hne, hc, List.head?_cons, Option.some.injEq, not_false_eq_true, true_and]
      split
      · contradiction
      · next heq => exact absurd (List.cons.inj heq).1 hz
      · simp [← String.toList_inj, String.toList_ofList, Decidable.imp_iff_not_or]

theorem body?_of_guarded {text : String} {rest : List Char}
    (h : guarded? (Text.trimStart text.toList) = some rest) :
    body? text =
      if isTruthy (.ofList (Text.firstWord rest)) && !(Text.afterWord rest).isEmpty then
        some (.ofList (Text.afterWord rest))
      else none := by
  unfold body?
  rw [h]
  dsimp only
  rw [Text.splitFirst_getD]
  dsimp only
  rw [Text.trimStart_tail]
  rfl

theorem body?_if (rest : List Char) :
    body? (.ofList ('i' :: 'f' :: ' ' :: rest)) =
      if isTruthy (.ofList (Text.firstWord rest)) && !(Text.afterWord rest).isEmpty then
        some (.ofList (Text.afterWord rest))
      else none := by
  have hi : Text.isBlank 'i' = false := by decide
  refine body?_of_guarded ?_
  rw [String.toList_ofList, Text.trimStart_cons hi]
  rfl

end Guard
end Showrunner
