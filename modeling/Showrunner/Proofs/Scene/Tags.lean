import Showrunner.Variables.Basic

namespace Showrunner.Scene

theorem qualifyTag_eq (c : Scene) (tag : String) :
    c.qualifyTag tag = Variables.qualify tag c.name := by
  unfold qualifyTag Variables.qualify isTopLevel
  cases tag.toList with
  | nil => simp
  | cons a cs =>
    by_cases ha : a = ':'
    · simp [ha]
    · simp [ha, or_comm]

/-- A tag means the thing that the scene made under it. Only at the top level there may be another
before it: the one whose name begins with that of the top level. -/
theorem resolveTag_of_holds {c : Scene} {tag : String} {holds : String → Bool} (ht : tag ≠ "")
    (hq : holds (c.qualifyTag tag)) :
    c.resolveTag tag holds =
      some (if c.isTopLevel ∧ ':' ∉ tag.toList ∧ holds (topLevel ++ ":" ++ tag) then
        topLevel ++ ":" ++ tag
      else c.qualifyTag tag) := by
  unfold qualifyTag at hq ⊢
  unfold resolveTag
  cases hl : tag.toList with
  | nil => exact absurd (String.toList_eq_nil_iff.mp hl) ht
  | cons a cs =>
    rw [hl] at hq
    by_cases ha : a = ':'
    · subst ha
      simpa using hq
    · have ha' : ':' ≠ a := Ne.symm ha
      by_cases hm : ':' ∈ cs
      · have hh : holds tag := by simpa [ha, hm] using hq
        simp [ha, hm, hh]
      · cases htop : c.isTopLevel with
        | true =>
          have hn : c.name = topLevel := beq_iff_eq.mp htop
          have hh : holds tag := by simpa [ha, ha', hm, htop] using hq
          simp [ha, ha', hm, hn, hh, apply_ite some]
        | false =>
          have hh : holds (c.name ++ ":" ++ tag) := by simpa [ha, ha', hm, htop] using hq
          simp [ha, ha', hm, hh]

end Showrunner.Scene
