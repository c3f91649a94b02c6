import Showrunner.Scene.Basic

namespace Showrunner.Scene

/-- The triggers and actions are as a start or a stop leaves them: no trigger has been updated,
no action has been performed, and each action is gated by triggers of the scene. -/
structure Fresh (c : Scene) : Prop where
  triggers : ∀ t ∈ c.triggers, ∃ condition now, t = .ofCondition condition c.name now
  actions : ∀ a ∈ c.actions, a.expanded = none ∧ a.complete = false
  bound : ∀ a ∈ c.actions, a.triggers ≠ [] ∧ ∀ j ∈ a.triggers, j < c.triggers.length
  stopped : c.enabled = false → c.actions = [] ∧ c.triggers = []

/-- What performing can do to a scene: either it keeps its generation and with it all that it
runs, or a later generation has begun. -/
structure Evolves (c d : Scene) : Prop where
  name : d.name = c.name
  folder : d.folder = c.folder
  content : d.content = c.content
  run : (d.generation = c.generation ∧ d.enabled = c.enabled ∧ d.triggers = c.triggers ∧
    d.actions = c.actions) ∨ (c.generation < d.generation ∧ d.Fresh)

namespace Evolves

variable {c d e : Scene}

theorem refl (c : Scene) : c.Evolves c := ⟨rfl, rfl, rfl, .inl ⟨rfl, rfl, rfl, rfl⟩⟩

theorem trans (h : c.Evolves d) (k : d.Evolves e) : c.Evolves e := by
  refine ⟨k.name.trans h.name, k.folder.trans h.folder, k.content.trans h.content, ?_⟩
  rcases h.run with ⟨hg, he, ht, ha⟩ | ⟨hg, hf⟩ <;>
    rcases k.run with ⟨kg, ke, kt, ka⟩ | ⟨kg, kf⟩
  · exact .inl ⟨kg.trans hg, ke.trans he, kt.trans ht, ka.trans ha⟩
  · exact .inr ⟨hg ▸ kg, kf⟩
  · have hl : e.triggers.length = d.triggers.length := by rw [kt]
    exact .inr ⟨by omega,
      fun t h => by rw [k.name]; exact hf.triggers t (kt ▸ h),
      fun a h => hf.actions a (ka ▸ h),
      fun a h => by rw [hl]; exact hf.bound a (ka ▸ h),
      fun h => by rw [kt, ka]; exact hf.stopped (ke ▸ h)⟩
  · exact .inr ⟨by omega, kf⟩

theorem useFolder (c : Scene) (folder : String) : c.Evolves { c with fromFolder := folder } :=
  ⟨rfl, rfl, rfl, .inl ⟨rfl, rfl, rfl, rfl⟩⟩

theorem stop (c : Scene) : c.Evolves { c.reset with enabled := false } := by
  refine ⟨rfl, rfl, rfl, .inr ⟨Nat.lt_succ_self _, ?_, ?_, ?_, ?_⟩⟩ <;> simp [reset]

theorem eq_of_generation (h : c.Evolves d) (hg : d.generation = c.generation) :
    d.enabled = c.enabled ∧ d.triggers = c.triggers ∧ d.actions = c.actions := by
  rcases h.run with ⟨_, h⟩ | ⟨hl, _⟩
  · exact h
  · omega

end Evolves
end Showrunner.Scene
