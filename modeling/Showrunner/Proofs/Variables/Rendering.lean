import Showrunner.Proofs.Variables.Escape

/-!
Texts that are written from literal texts and references, and what becomes of them when their
references are replaced.
-/

namespace Showrunner.Variables

/-- A part of a text as it is meant: what stands for itself, or a reference to a name. -/
inductive Fragment where
  | literal (text : String)
  | reference (name : String) (braced : Bool)
deriving DecidableEq, Repr

namespace Fragment

def spelled : Fragment → List Char
  | literal text => Text.escaped (· == '$') text.toList
  | reference name true => '$' :: '\x7b' :: (name.toList ++ ['\x7d'])
  | reference name false => '$' :: name.toList

def render (fs : List Fragment) : String := .ofList (fs.flatMap spelled)

def pieces : Fragment → List Piece
  | literal text => text.toList.map .char
  | reference name braced => [.reference name.toList braced]

def name? : Fragment → Option String
  | literal _ => none
  | reference name _ => some name

def names (fs : List Fragment) : List String := fs.filterMap name?

@[simp]
theorem names_literal (text : String) (fs : List Fragment) :
    names (literal text :: fs) = names fs := rfl

@[simp]
theorem names_reference (name : String) (braced : Bool) (fs : List Fragment) :
    names (reference name braced :: fs) = name :: names fs := rfl

def value (v : Variables) (scene : String) (stage : Stage) : Fragment → String
  | literal text => text
  | reference name _ => (v.settled? name scene stage).getD placeholder

def embraced : Fragment → Fragment
  | literal text => literal text
  | reference name _ => reference name true

/-- A reference to the name can be read back in front of the text. In braces, a name has no closing
brace. Without them, it has name characters only and ends where the text begins. -/
def Legible (name rest : List Char) : Bool → Prop
  | true => '\x7d' ∉ name
  | false => (∀ c ∈ name, isNameChar c) ∧ EndsName rest

instance (name rest : List Char) : DecidablePred (Legible name rest)
  | true => inferInstanceAs (Decidable ('\x7d' ∉ name))
  | false => @instDecidableAnd _ _ (List.decidableBAll (isNameChar · = true) name) _

/-- Fragments that do not run into one another: each reference can be read back, and none is
directly behind a backslash. The character is the last one of the literal text in front of the
fragments. A literal text that is empty keeps nothing apart, so what is in front of it counts. -/
def Separate : Option Char → List Fragment → Prop
  | _, [] => True
  | before, literal text :: fs => Separate (text.toList.getLast?.or before) fs
  | before, reference name braced :: fs =>
    before ≠ some '\\' ∧ name ≠ "" ∧ Legible name.toList (fs.flatMap spelled) braced ∧
      Separate none fs

instance decidableSeparate : (before : Option Char) → (fs : List Fragment) →
    Decidable (Separate before fs)
  | _, [] => isTrue trivial
  | before, literal text :: fs => decidableSeparate (text.toList.getLast?.or before) fs
  | before, reference name braced :: fs =>
    have := decidableSeparate none fs
    inferInstanceAs (Decidable (before ≠ some '\\' ∧ name ≠ "" ∧
      Legible name.toList (fs.flatMap spelled) braced ∧ Separate none fs))

variable {before : Option Char} {fs : List Fragment}

theorem Separate.head?_ne (h : Separate (some '\\') fs) :
    (fs.flatMap spelled).head? ≠ some '$' := by
  induction fs with
  | nil => nofun
  | cons f fs ih =>
    cases f with
    | reference name braced => exact absurd rfl h.1
    | literal text =>
      rw [List.flatMap_cons, spelled]
      refine Text.head?_escaped_ne rfl rfl fun ht => ?_
      rw [Separate, ht] at h
      exact ih h

theorem piecesFrom_reference {name : String} (hne : name ≠ "") {rest : List Char} {braced : Bool}
    (h : Legible name.toList rest braced) :
    piecesFrom 0 (spelled (reference name braced) ++ rest) =
      .reference name.toList braced :: piecesFrom 0 rest := by
  have hn : name.toList ≠ [] := fun he => hne (String.toList_eq_nil_iff.mp he)
  cases braced with
  | true => simpa [spelled] using piecesFrom_braced hn h rest
  | false => exact piecesFrom_bare hn h.1 h.2

theorem piecesFrom_spelled (h : Separate before fs) :
    piecesFrom 0 (fs.flatMap spelled) = fs.flatMap pieces := by
  induction fs generalizing before with
  | nil => rfl
  | cons f fs ih =>
    rw [List.flatMap_cons, List.flatMap_cons]
    cases f with
    | literal text =>
      have he : Text.escaped (fun c => c == '$' && c != '$') text.toList = text.toList := by
        simp [Text.escaped, bne]
      have hr : text.toList.getLast? = some '\\' → (fs.flatMap spelled).head? ≠ some '$' := by
        intro hl
        rw [Separate, hl] at h
        exact h.head?_ne
      rw [spelled, piecesFrom_escaped rfl rfl _ _ hr, he, ih h]
      rfl
    | reference name braced =>
      obtain ⟨-, hne, hl, hs⟩ := h
      rw [piecesFrom_reference hne hl, ih hs]
      rfl

variable {v : Variables} {scene : String} {stage : Stage} {d : Dice}

theorem expandPieces_fragments (h : Separate before fs) (hd : ∀ name ∈ names fs, name ∉ drawing) :
    v.expandPieces scene stage d (fs.flatMap pieces) =
      ⟨String.join (fs.map (value v scene stage)),
        (names fs).filter fun name => (v.settled? name scene stage).isNone, d⟩ := by
  induction fs generalizing before with
  | nil => rfl
  | cons f fs ih =>
    rw [List.flatMap_cons]
    cases f with
    | literal text =>
      rw [pieces, expandPieces_literal, ih h hd]
      simp [value]
    | reference name braced =>
      obtain ⟨-, -, hl, hs⟩ := h
      have hname : String.ofList name.toList ∉ drawing := by
        rw [String.ofList_toList]
        exact hd name (by simp)
      have hp : braced = false → '.' ∉ name.toList := by
        rintro rfl
        exact point_not_mem hl.1
      have hi := ih hs fun name hn => hd name (List.mem_cons_of_mem _ hn)
      rw [pieces, List.singleton_append, expandPieces, resolve?_settled hname braced hp,
        String.ofList_toList]
      cases hv : v.settled? name scene stage with
      | some text => simp [hi, value, hv]
      | none => simp [hi, value, hv]

theorem Separate.embraced (h : Separate before fs) : Separate before (fs.map embraced) := by
  induction fs generalizing before with
  | nil => trivial
  | cons f fs ih =>
    cases f with
    | literal text => exact ih h
    | reference name braced =>
      obtain ⟨hb, hne, hl, hs⟩ := h
      refine ⟨hb, hne, ?_, ih hs⟩
      cases braced with
      | true => exact hl
      | false => exact fun hm => absurd (hl.1 _ hm) (by decide)

/-- An expansion is what the fragments ask for: the literal texts with the values of the names
between them, a placeholder and a report for each name without a value, and nothing else. -/
structure Filled (v : Variables) (scene : String) (stage : Stage) (fs : List Fragment)
    (e : Expansion) : Prop where
  text : e.text = String.join (fs.map (value v scene stage))
  safe : e.isSafe ↔ ∀ name ∈ names fs, (v.settled? name scene stage).isSome
  diagnostics : e.diagnostics scene =
    ((names fs).filter fun name => (v.settled? name scene stage).isNone).map fun name =>
      (Problem.noVariable name).within scene

theorem expand_render (h : Separate none fs) (hd : ∀ name ∈ names fs, name ∉ drawing)
    (v : Variables) (scene : String) (stage : Stage) (d : Dice) :
    v.expand (render fs) scene stage d = ⟨String.join (fs.map (value v scene stage)),
      (names fs).filter fun name => (v.settled? name scene stage).isNone, d⟩ := by
  rw [expand, Variables.pieces, render, String.toList_ofList, piecesFrom_spelled h,
    expandPieces_fragments h hd]

theorem names_embraced (fs : List Fragment) : names (fs.map embraced) = names fs := by
  induction fs with
  | nil => rfl
  | cons f fs ih => cases f <;> simp [embraced, ih]

theorem value_embraced (f : Fragment) :
    value v scene stage (embraced f) = value v scene stage f := by
  cases f <;> rfl

end Fragment

open Fragment

/-- Fragments that are written end to end without running into one another, and whose names draw
nothing, are replaced one by one. Values put in are not looked at again, and it does not matter
which of the names are in braces. -/
theorem expand_fragments {fs : List Fragment} (h : Separate none fs)
    (hd : ∀ name ∈ names fs, name ∉ drawing) (v : Variables) (scene : String) (stage : Stage)
    (d : Dice) :
    Filled v scene stage fs (v.expand (render fs) scene stage d) ∧
      v.expand (render (fs.map embraced)) scene stage d = v.expand (render fs) scene stage d := by
  have he := expand_render h hd v scene stage d
  constructor
  · rw [he]
    exact
      { text := rfl
        safe := by simp [Expansion.isSafe, List.filter_eq_nil_iff, Option.isSome_iff_ne_none]
        diagnostics := rfl }
  · rw [he, expand_render h.embraced (by rwa [names_embraced]), names_embraced, List.map_map]
    simp [Function.comp_def, value_embraced]

def receipt : List Fragment :=
  [.literal "$", .reference "sum" false, .reference "who" true, .literal ". Paid by ",
    .reference "cat.x y" true, .literal ".\\"]

def till : Variables :=
  ((start (640, 480) 30).set "sum" "$who" "shop").set "who" " by Ann" topLevel

theorem expand_fragments_receipt :
    render receipt = "\\$$sum$\x7bwho\x7d. Paid by $\x7bcat.x y\x7d.\\" ∧
      (till.expand (render receipt) "shop" .empty .still).text = "$$who by Ann. Paid by ???.\\" ∧
      (till.expand (render receipt) "shop" .empty .still).diagnostics "shop" =
        [(Problem.noVariable "cat.x y").within "shop"] ∧
      till.expand "\\$$\x7bsum\x7d$\x7bwho\x7d. Paid by $\x7bcat.x y\x7d.\\" "shop" .empty .still =
        till.expand (render receipt) "shop" .empty .still := by
  have hs : Separate none receipt := by decide
  have hn : ∀ name ∈ names receipt, name ∉ drawing := by decide
  obtain ⟨hf, he⟩ := expand_fragments hs hn till "shop" .empty .still
  have ht : String.join (receipt.map (value till "shop" .empty)) =
      "$$who by Ann. Paid by ???.\\" := by decide +kernel
  have hd : (names receipt).filter (fun name => (till.settled? name "shop" .empty).isNone) =
      ["cat.x y"] := by decide +kernel
  have hr : render (receipt.map embraced) =
      "\\$$\x7bsum\x7d$\x7bwho\x7d. Paid by $\x7bcat.x y\x7d.\\" := by decide
  refine ⟨by decide, ?_, ?_, ?_⟩
  · rw [hf.text, ht]
  · rw [hf.diagnostics, hd]
    rfl
  · rw [← hr, he]

end Showrunner.Variables
