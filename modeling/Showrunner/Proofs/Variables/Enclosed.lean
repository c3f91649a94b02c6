import Showrunner.Proofs.Expression.Brackets
import Showrunner.Proofs.Variables.Escape

namespace Showrunner

namespace Variables

theorem nameFrom_closing (started : Bool) (s : List Char) :
    nameFrom started (s ++ [')']) = nameFrom started s := by
  have hp : isNameChar ')' = false := by decide
  induction s generalizing started with
  | nil => simp [nameFrom, hp]
  | cons c s ih =>
    have hj : (s ++ [')']).head?.any isNameChar = s.head?.any isNameChar := by
      cases s with
      | nil => exact hp
      | cons d r => rfl
    rw [List.cons_append, nameFrom, nameFrom, hj, ih]

theorem reference?_bare {s : List Char} (h : ∀ r, s ≠ '\x7b' :: r) :
    reference? s = match nameFrom false s with
      | [] => none
      | name => some (name, false, name.length) := by
  unfold reference?
  split
  · exact absurd rfl (h _)
  · rfl

theorem reference?_closing (s : List Char) : reference? (s ++ [')']) = reference? s := by
  by_cases hb : ∃ r, s = '\x7b' :: r
  · obtain ⟨r, rfl⟩ := hb
    rw [List.cons_append, reference?, reference?, Expression.splitFirst_closing rfl]
    cases Text.splitFirst (· == '\x7d') r with
    | none => rfl
    | some split =>
      obtain ⟨name, rest⟩ := split
      cases name <;> rfl
  · have hs : ∀ r, s ≠ '\x7b' :: r := fun r h => hb ⟨r, h⟩
    have hc : ∀ r, s ++ [')'] ≠ '\x7b' :: r := by
      intro r h
      cases s with
      | nil => cases h
      | cons c s =>
        obtain ⟨rfl, -⟩ := List.cons.inj h
        exact hs s rfl
    rw [reference?_bare hs, reference?_bare hc, nameFrom_closing]

theorem nameFrom_length_le (started : Bool) (s : List Char) :
    (nameFrom started s).length ≤ s.length := by
  induction s generalizing started with
  | nil => exact Nat.le_refl _
  | cons c s ih =>
    rw [nameFrom]
    split
    · exact Nat.succ_le_succ (ih true)
    · exact Nat.zero_le _

theorem reference?_width_le {s name : List Char} {braced : Bool} {width : Nat}
    (h : reference? s = some (name, braced, width)) : width ≤ s.length := by
  by_cases hb : ∃ r, s = '\x7b' :: r
  · obtain ⟨r, rfl⟩ := hb
    rw [reference?] at h
    cases hs : Text.splitFirst (· == '\x7d') r with
    | none =>
      rw [hs] at h
      cases h
    | some split =>
      obtain ⟨inner, rest⟩ := split
      obtain ⟨mark, -, rfl⟩ := Text.splitFirst_eq_some hs
      rw [hs] at h
      cases inner with
      | nil => cases h
      | cons c inner =>
        cases h
        simp
  · rw [reference?_bare fun r hr => hb ⟨r, hr⟩] at h
    have hl := nameFrom_length_le false s
    split at h
    · cases h
    · cases h
      exact hl

theorem piecesFrom_closing (s : List Char) (skip : Nat) (h : skip ≤ s.length) :
    piecesFrom skip (s ++ [')']) = piecesFrom skip s ++ [.char ')'] := by
  induction s generalizing skip with
  | nil =>
    obtain rfl := Nat.le_zero.mp h
    rfl
  | cons c s ih =>
    cases skip with
    | succ skip => exact ih skip (Nat.le_of_succ_le_succ h)
    | zero =>
      have hd : ((s ++ [')']).head? == some '$') = (s.head? == some '$') := by cases s <;> rfl
      rw [List.cons_append, piecesFrom, piecesFrom, hd, reference?_closing]
      split
      · next he =>
        have hs : 1 ≤ s.length := by
          cases s with
          | nil => simp at he
          | cons => simp
        rw [ih 1 hs]
        rfl
      · split
        · rw [ih 0 (Nat.zero_le _)]
          rfl
        · cases hr : reference? s with
          | none =>
            dsimp only
            rw [ih 0 (Nat.zero_le _)]
            rfl
          | some r =>
            obtain ⟨name, braced, width⟩ := r
            dsimp only
            rw [ih width (reference?_width_le hr)]
            rfl

theorem pieces_enclosed (text : String) :
    pieces ("(" ++ text ++ ")") = .char '(' :: (pieces text ++ [.char ')']) := by
  have ht : ("(" ++ text ++ ")").toList = '(' :: (text.toList ++ [')']) := by
    simp [String.toList_append]
  rw [pieces, ht, pieces, ← piecesFrom_closing text.toList 0 (Nat.zero_le _)]
  rfl

theorem expandPieces_concat (v : Variables) (scene : String) (stage : Stage) (c : Char)
    (ps : List Piece) (d : Dice) :
    v.expandPieces scene stage d (ps ++ [.char c]) =
      { v.expandPieces scene stage d ps with
        text := (v.expandPieces scene stage d ps).text ++ c.toString } := by
  induction ps generalizing d with
  | nil => simp [expandPieces]
  | cons p ps ih =>
    rw [List.cons_append]
    cases p with
    | char e =>
      rw [expandPieces, expandPieces, ih]
      dsimp only
      rw [String.append_assoc]
    | reference name braced =>
      rw [expandPieces, expandPieces]
      split
      all_goals
        rw [ih]
        dsimp only
        rw [String.append_assoc]

theorem expand_enclosed (v : Variables) (text scene : String) (stage : Stage) (d : Dice) :
    v.expand ("(" ++ text ++ ")") scene stage d =
      { v.expand text scene stage d with
        text := "(" ++ (v.expand text scene stage d).text ++ ")" } := by
  rw [expand, expand, pieces_enclosed, expandPieces, expandPieces_concat]
  simp [String.append_assoc]

end Variables

namespace Span

open Expression (nesting bracketOf? Nested)

/-- Inside an open parenthesis, a text that closes what it opens is read up to the parenthesis
behind it. -/
theorem segmentsFrom_nested (s : List Char) (hb : '\\' ∉ s) (opened : List Char) (d : Nat)
    (h : nesting d (s.filterMap bracketOf?) = some 0) :
    segmentsFrom opened (d + 1) (s ++ [')']) = [.span (opened ++ (s ++ [')']))] := by
  induction s generalizing opened d with
  | nil =>
    cases h
    rfl
  | cons c s ih =>
    rw [List.mem_cons, not_or] at hb
    have hn := ih hb.2
    by_cases ho : c = '('
    · subst ho
      have hi := hn (opened ++ ['(']) (d + 1) h
      rw [List.append_assoc] at hi
      exact hi
    · by_cases hc : c = ')'
      · subst hc
        cases d with
        | zero => cases h
        | succ d =>
          have hi := hn (opened ++ [')']) d h
          rw [List.append_assoc] at hi
          exact hi
      · have hp : bracketOf? c = none := by simp [bracketOf?, ho, hc]
        rw [List.filterMap_cons_none hp] at h
        have hi := hn (opened ++ [c]) d h
        rw [List.append_assoc] at hi
        rw [List.cons_append, segmentsFrom_cons (by simp [isParenthesis, ho, hc])
          fun he => absurd he.symm hb.1, place, if_neg (Nat.succ_ne_zero d)]
        exact hi

theorem evaluate_enclosed (evaluator : Evaluator) {text : String} (h : Nested text.toList)
    (hb : '\\' ∉ text.toList) :
    evaluate evaluator ("(" ++ text ++ ")") = evaluator ("(" ++ text ++ ")") := by
  have ht : ("(" ++ text ++ ")").toList = '(' :: (text.toList ++ [')']) := by
    simp [String.toList_append]
  have hs : segments ("(" ++ text ++ ")") = [.span ("(" ++ text ++ ")").toList] := by
    rw [segments, ht]
    exact segmentsFrom_nested text.toList hb ['('] 0 h.nesting_eq
  rw [evaluate, hs, fill, String.ofList_toList]
  cases evaluator ("(" ++ text ++ ")") with
  | error e => rfl
  | ok value => simp [fill, Functor.map, Except.map, bind, Except.bind, pure, Except.pure]

end Span

end Showrunner
