import Showrunner.Proofs.Scene.Evolution
import Showrunner.Proofs.Trigger.Update

namespace Showrunner.Scene

/-- What holds of a scene whenever none of its triggers is being handled. -/
structure Coherent (c : Scene) : Prop where
  unfired : ∀ t ∈ c.triggers, t.fired = false
  bound : ∀ a ∈ c.actions, a.triggers ≠ [] ∧ ∀ j ∈ a.triggers, j < c.triggers.length
  stopped : c.enabled = false → c.actions = [] ∧ c.triggers = []
  owned : ∀ t ∈ c.triggers, t.scene = c.name
  settled : ∀ t ∈ c.triggers, t.Settled

variable {c d : Scene}

theorem Fresh.coherent (h : c.Fresh) : c.Coherent := by
  refine ⟨fun t ht => ?_, h.bound, h.stopped, fun t ht => ?_, fun t ht => ?_⟩
  · obtain ⟨_, _, rfl⟩ := h.triggers t ht
    rfl
  · obtain ⟨_, _, rfl⟩ := h.triggers t ht
    rfl
  · obtain ⟨_, _, rfl⟩ := h.triggers t ht
    exact Trigger.settled_ofCondition _ _ _

theorem coherent_ofContent (name : String) (folder : Path) (content : List String) :
    (ofContent name folder content).Coherent := by
  refine ⟨?_, ?_, fun _ => ⟨rfl, rfl⟩, ?_, ?_⟩ <;> simp [ofContent]

theorem Coherent.evolves (h : c.Coherent) (he : c.Evolves d) : d.Coherent := by
  rcases he.run with ⟨_, hd, ht, ha⟩ | ⟨_, hf⟩
  · exact ⟨by rw [ht]; exact h.unfired, by rw [ht, ha]; exact h.bound,
      by rw [ht, ha, hd]; exact h.stopped, by rw [ht, he.name]; exact h.owned,
      by rw [ht]; exact h.settled⟩
  · exact hf.coherent

theorem length_clearFired (c : Scene) : c.clearFired.triggers.length = c.triggers.length := by
  simp [clearFired]

theorem Fresh.clearFired_eq (h : c.Fresh) : c.clearFired = c := by
  have ht : c.triggers.map (fun t => { t with fired := false }) = c.triggers := by
    refine (List.map_congr_left fun t ht => ?_).trans (List.map_id _)
    obtain ⟨_, _, rfl⟩ := h.triggers t ht
    rfl
  unfold clearFired
  rw [ht]

theorem Evolves.clearFired (h : c.Evolves d) : c.clearFired.Evolves d.clearFired := by
  refine ⟨h.name, h.folder, h.content, ?_⟩
  rcases h.run with ⟨hg, he, ht, ha⟩ | ⟨hg, hf⟩
  · exact .inl ⟨hg, he, by unfold Scene.clearFired; rw [ht], ha⟩
  · exact .inr ⟨hg, hf.clearFired_eq.symm ▸ hf⟩

theorem Coherent.modifyAction (h : c.Coherent) (position : Nat) {f : Action → Action}
    (hf : ∀ a, (f a).triggers = a.triggers) :
    Coherent { c with actions := c.actions.modify position f } := by
  refine ⟨h.unfired, fun a ha => ?_, fun he => ?_, h.owned, h.settled⟩
  · obtain ⟨j, hj⟩ := List.getElem?_of_mem ha
    rw [List.getElem?_modify] at hj
    obtain ⟨b, hb, rfl⟩ := Option.map_eq_some_iff.mp hj
    have hm := h.bound b (List.mem_of_getElem? hb)
    split
    · rw [hf]
      exact hm
    · exact hm
  · obtain ⟨ha, ht⟩ := h.stopped he
    exact ⟨by rw [ha]; cases position <;> rfl, ht⟩

theorem Coherent.update (h : c.Coherent) (he : c.enabled) {ts : List Trigger}
    (hl : ts.length = c.triggers.length)
    (hu : ∀ u ∈ ts, ∃ t ∈ c.triggers, ∃ clock input holds, u = (t.update clock input holds).1) :
    (Scene.clearFired { c with triggers := ts }).Coherent := by
  refine ⟨fun t ht => ?_, fun a ha => ?_, fun hd => ?_, fun t ht => ?_, fun t ht => ?_⟩
  · obtain ⟨u, _, rfl⟩ := List.mem_map.mp ht
    rfl
  · rw [length_clearFired, hl]
    exact h.bound a ha
  · rw [show (Scene.clearFired { c with triggers := ts }).enabled = c.enabled from rfl, he] at hd
    cases hd
  · obtain ⟨u, hm, rfl⟩ := List.mem_map.mp ht
    obtain ⟨t, hc, _, _, _, rfl⟩ := hu u hm
    exact (t.update_scene _ _ _).trans (h.owned t hc)
  · obtain ⟨u, hm, rfl⟩ := List.mem_map.mp ht
    obtain ⟨t, hc, clock, input, holds, rfl⟩ := hu u hm
    have hs := (h.settled t hc).update clock input holds
    exact ⟨hs.expired, hs.prompt⟩

end Showrunner.Scene
