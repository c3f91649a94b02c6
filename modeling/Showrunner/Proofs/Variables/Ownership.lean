import Showrunner.Proofs.Text.Split
import Showrunner.Variables.Basic

namespace Showrunner.Variables

/-- The name has no colon: a scene means its own variable by it. -/
def Plain (name : String) : Prop := ':' ∉ name.toList

instance (name : String) : Decidable (Plain name) := inferInstanceAs (Decidable (¬ _))

variable {name other scene owner : String} {v : Variables}

namespace Plain

theorem not_colon (h : Plain name) (top : List Char) : name.toList ≠ ':' :: top := by
  intro he
  exact h (by simp [he])

theorem ne_qualified (h : Plain name) (scene other : String) : scene ++ ":" ++ other ≠ name := by
  intro he
  exact h (by simp [← he, String.toList_append])

theorem qualify_eq (h : Plain name) (hs : scene ≠ topLevel) :
    qualify name scene = scene ++ ":" ++ name := by
  unfold qualify
  split
  · next he => exact absurd he (h.not_colon _)
  · have hc : ':' ∉ name.toList := h
    simp [hs, hc]

theorem qualify_topLevel (h : Plain name) : qualify name topLevel = name := by
  unfold qualify
  split
  · next he => exact absurd he (h.not_colon _)
  · simp

theorem get?_eq (h : Plain name) (v : Variables) (scene : String) :
    v.get? name scene = (v.values.get? (qualify name scene)).or (v.values.get? name) := by
  unfold get?
  split
  · next he => exact absurd he (h.not_colon _)
  · rfl

theorem get?_topLevel (h : Plain name) (v : Variables) :
    v.get? name topLevel = v.values.get? name := by
  rw [h.get?_eq, h.qualify_topLevel, Option.or_self]

end Plain

theorem qualified_inj (hn : Plain name) (ho : Plain other)
    (h : scene ++ ":" ++ name = owner ++ ":" ++ other) : scene = owner := by
  have hl : scene.toList ++ ':' :: name.toList = owner.toList ++ ':' :: other.toList := by
    simpa [String.toList_append] using congrArg String.toList h
  have hcut := congrArg (Text.splitLast (· == ':')) hl
  rw [Text.splitLast_append rfl (fun c hc => beq_false_of_ne fun (he : c = ':') => hn (he ▸ hc)),
    Text.splitLast_append rfl
      (fun c hc => beq_false_of_ne fun (he : c = ':') => ho (he ▸ hc))] at hcut
  exact String.toList_inj.mp (congrArg Prod.fst (Option.some.inj hcut))

theorem qualify_ne (hn : Plain name) (ho : Plain other) (hs : scene ≠ topLevel)
    (hne : scene ≠ owner) : qualify name scene ≠ qualify other owner := by
  rw [hn.qualify_eq hs]
  by_cases htop : owner = topLevel
  · rw [htop, ho.qualify_topLevel]
    exact ho.ne_qualified _ _
  · rw [ho.qualify_eq htop]
    exact fun h => hne (qualified_inj hn ho h)

theorem isOwned_iff : isOwned scene name ↔ ∃ rest, name.toList = scene.toList ++ ':' :: rest := by
  have hl : (scene ++ ":").toList = scene.toList ++ [':'] := String.toList_append
  rw [isOwned, hl, List.isPrefixOf_iff_prefix]
  constructor
  · rintro ⟨rest, hr⟩
    exact ⟨rest, by rw [← hr, List.append_assoc, List.singleton_append]⟩
  · rintro ⟨rest, hr⟩
    exact ⟨rest, by rw [hr, List.append_assoc, List.singleton_append]⟩

theorem Plain.not_isOwned (h : Plain name) (scene : String) : isOwned scene name = false := by
  refine Bool.eq_false_iff.mpr fun ho => ?_
  obtain ⟨rest, hr⟩ := isOwned_iff.mp ho
  exact h (by simp [hr])

/-- A scene owns the variables of those whose names begin with its own and a colon. -/
theorem isOwned_qualified (hn : Plain name) (hne : scene ≠ owner) :
    isOwned scene (owner ++ ":" ++ name) = isOwned scene owner := by
  refine Bool.eq_iff_iff.mpr ?_
  rw [isOwned_iff, isOwned_iff]
  have hl : (owner ++ ":" ++ name).toList = owner.toList ++ ':' :: name.toList := by
    simp [String.toList_append]
  rw [hl]
  constructor
  · rintro ⟨rest, hr⟩
    rcases List.append_eq_append_iff.mp hr with ⟨between, hs, hc⟩ | ⟨between, ho, hc⟩
    · -- the scene's name would reach into the variable's, past a colon
      cases between with
      | nil => exact absurd (String.toList_inj.mp (by simpa using hs)) hne
      | cons c cs =>
        obtain ⟨rfl, hm⟩ := List.cons_eq_cons.mp hc
        exact absurd (by simp [hm]) hn
    · cases between with
      | nil => exact absurd (String.toList_inj.mp (by simpa using ho)).symm hne
      | cons c cs =>
        obtain ⟨rfl, _⟩ := List.cons_eq_cons.mp hc
        exact ⟨cs, ho⟩
  · rintro ⟨rest, hr⟩
    exact ⟨rest ++ ':' :: name.toList, by simp [hr]⟩

theorem get?_set (hn : Plain name) (ho : Plain other) (hs : scene ≠ topLevel)
    (hne : scene ≠ owner) (v : Variables) (value : String) :
    (v.set name value scene).get? other owner = v.get? other owner := by
  have hq : other ≠ qualify name scene := by
    rw [hn.qualify_eq hs]
    exact (ho.ne_qualified _ _).symm
  rw [ho.get?_eq, ho.get?_eq]
  unfold set
  rw [Table.get?_insert, Table.get?_insert, if_neg (qualify_ne hn ho hs hne).symm, if_neg hq]

/-- When the variables of a scene are dropped, another keeps its own unless the scene owns them
by name. Then it sees those of the top level. -/
theorem get?_purge (ho : Plain other) (hne : scene ≠ owner) (v : Variables) :
    (v.purge scene).get? other owner =
      if isOwned scene owner then v.get? other topLevel else v.get? other owner := by
  have howned : isOwned scene (qualify other owner) = isOwned scene owner := by
    by_cases htop : owner = topLevel
    · have hplain : Plain topLevel := by decide
      rw [htop, ho.qualify_topLevel, ho.not_isOwned, hplain.not_isOwned]
    · rw [ho.qualify_eq htop, isOwned_qualified ho hne]
  have hkeep (value : Option String) : value.filter (fun _ => true) = value := by
    cases value <;> rfl
  rw [ho.get?_eq, ho.get?_eq, ho.get?_eq, ho.qualify_topLevel, Option.or_self]
  unfold purge
  rw [Table.get?_filter, Table.get?_filter, howned, ho.not_isOwned]
  cases isOwned scene owner <;> simp [hkeep]

end Showrunner.Variables
