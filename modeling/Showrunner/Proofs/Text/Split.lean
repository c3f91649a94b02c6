import Mathlib.Data.List.TakeWhile
import Showrunner.Text.Split
import Showrunner.Text.Words

namespace Showrunner.Text

variable {p : Char → Bool} {s : List Char}

theorem splitFirst_append {mark : Char} (hs : ∀ c ∈ s, p c = false) (hm : p mark)
    (rest : List Char) : splitFirst p (s ++ mark :: rest) = some (s, rest) := by
  induction s with
  | nil => simp [splitFirst, hm]
  | cons c cs ih =>
    have hc : p c = false := hs c List.mem_cons_self
    simp [splitFirst, hc, ih fun d hd => hs d (List.mem_cons_of_mem _ hd)]

theorem splitFirst_eq_some {inner rest : List Char}
    (h : splitFirst p s = some (inner, rest)) :
    ∃ mark, p mark ∧ s = inner ++ mark :: rest := by
  induction s generalizing inner with
  | nil => cases h
  | cons c s ih =>
    rw [splitFirst] at h
    split at h
    · next hc =>
      cases h
      exact ⟨c, hc, rfl⟩
    · cases hs : splitFirst p s with
      | none => rw [hs] at h; cases h
      | some split =>
        rw [hs] at h
        cases h
        obtain ⟨mark, hm, rfl⟩ := ih hs
        exact ⟨mark, hm, rfl⟩

theorem forall_of_splitFirst {inner rest : List Char} (h : splitFirst p s = some (inner, rest)) :
    ∀ c ∈ inner, p c = false := by
  induction s generalizing inner with
  | nil => cases h
  | cons c s ih =>
    rw [splitFirst] at h
    by_cases hc : p c
    · rw [if_pos hc] at h
      cases h
      nofun
    · rw [if_neg hc, Option.map_eq_some_iff] at h
      obtain ⟨⟨before, after⟩, hs, he⟩ := h
      cases he
      exact List.forall_mem_cons.mpr ⟨by simpa using hc, ih hs⟩

theorem splitFirst_eq_none (hs : ∀ c ∈ s, p c = false) : splitFirst p s = none := by
  induction s with
  | nil => rfl
  | cons c cs ih =>
    have hc : p c = false := hs c List.mem_cons_self
    simp [splitFirst, hc, ih fun d hd => hs d (List.mem_cons_of_mem _ hd)]

theorem splitLast_eq_none (hs : ∀ c ∈ s, p c = false) : splitLast p s = none := by
  induction s with
  | nil => rfl
  | cons c cs ih =>
    have hc : p c = false := hs c List.mem_cons_self
    simp [splitLast, hc, ih fun d hd => hs d (List.mem_cons_of_mem _ hd)]

theorem splitLast_append {mark : Char} (hm : p mark) {rest : List Char}
    (hr : ∀ c ∈ rest, p c = false) (s : List Char) :
    splitLast p (s ++ mark :: rest) = some (s, rest) := by
  induction s with
  | nil =>
    have hn : splitLast p rest = none := splitLast_eq_none hr
    simp [splitLast, hn, hm]
  | cons c cs ih => simp [splitLast, ih]

/-- The text has no blank in it. -/
def Solid (s : List Char) : Prop := ∀ c ∈ s, isBlank c = false

instance (s : List Char) : Decidable (Solid s) := List.decidableBAll (isBlank · = false) s

def firstWord (s : List Char) : List Char := (trimStart s).takeWhile (!isBlank ·)

def afterWord (s : List Char) : List Char := trimStart ((trimStart s).dropWhile (!isBlank ·))

theorem trimStart_cons {c : Char} (hc : isBlank c = false) (s : List Char) :
    trimStart (c :: s) = c :: s := by
  simp [trimStart, hc]

theorem trimStart_trimStart (s : List Char) : trimStart (trimStart s) = trimStart s := by
  induction s with
  | nil => rfl
  | cons c cs ih =>
    cases hc : isBlank c with
    | true => simpa [trimStart, hc] using ih
    | false => rw [trimStart_cons hc, trimStart_cons hc]

theorem trim_trimStart (s : List Char) : trim (.ofList (trimStart s)) = trim (.ofList s) := by
  unfold trim
  rw [String.toList_ofList, String.toList_ofList, trimStart_trimStart]

theorem trim_eq_empty {s : String} : trim s = "" ↔ trimStart s.toList = [] := by
  constructor
  · intro h
    have hr : trimStart (trimStart s.toList).reverse = [] := by
      simpa [trim, trimEnd, ← String.toList_inj] using h
    -- A text of blanks is one from either end.
    have hall : ∀ c ∈ trimStart s.toList, isBlank c := fun c hc =>
      List.dropWhile_eq_nil_iff.mp hr c (List.mem_reverse.mpr hc)
    rw [← trimStart_trimStart]
    exact List.dropWhile_eq_nil_iff.mpr hall
  · intro h
    rw [trim, h]
    rfl

theorem splitFirst_getD (s : List Char) : (splitFirst p s).getD (s, []) =
    (s.takeWhile (!p ·), (s.dropWhile (!p ·)).tail) := by
  induction s with
  | nil => rfl
  | cons c cs ih =>
    cases hc : p c with
    | true => simp [splitFirst, hc]
    | false =>
      rw [splitFirst, if_neg (by simp [hc]), List.takeWhile_cons_of_pos (by simp [hc]),
        List.dropWhile_cons_of_pos (by simp [hc])]
      have h := congrArg (fun split => (c :: split.1, split.2)) ih
      cases hs : splitFirst p cs with
      | none | some => rwa [hs] at h

theorem trimStart_tail (s : List Char) :
    trimStart (s.dropWhile (!isBlank ·)).tail = trimStart (s.dropWhile (!isBlank ·)) := by
  -- The tail is without the blank that ends the first word.
  induction s with
  | nil => rfl
  | cons c cs ih =>
    cases hc : isBlank c with
    | true => simp [trimStart, hc]
    | false => simpa [hc] using ih

section

variable {word : List Char}

theorem trimStart_append (hw : Solid word) (hne : word ≠ []) (rest : List Char) :
    trimStart (word ++ rest) = word ++ rest := by
  cases word with
  | nil => exact absurd rfl hne
  | cons c cs => exact trimStart_cons (hw c List.mem_cons_self) _

theorem firstWord_append (hw : Solid word) (hne : word ≠ []) (rest : List Char) :
    firstWord (word ++ ' ' :: rest) = word := by
  have hs : isBlank ' ' := by decide
  have hall : ∀ c ∈ word, (!isBlank c) = true := fun c hc => by simp [hw c hc]
  rw [firstWord, trimStart_append hw hne, List.takeWhile_append_of_pos hall]
  simp [hs]

theorem afterWord_append (hw : Solid word) (hne : word ≠ []) (rest : List Char) :
    afterWord (word ++ ' ' :: rest) = trimStart rest := by
  have hs : isBlank ' ' := by decide
  have hall : ∀ c ∈ word, (!isBlank c) = true := fun c hc => by simp [hw c hc]
  rw [afterWord, trimStart_append hw hne, List.dropWhile_append_of_pos hall]
  simp [trimStart, hs]

end

end Showrunner.Text
