import Showrunner.Proofs.Scene.Evolution
import Showrunner.Proofs.Show.Reading

namespace Showrunner.Show

/-- What performing can do to a show: its scenes stay in their places and evolve, and the number of
starts under way comes out the same. -/
structure Evolves (s t : Show) : Prop where
  length : t.scenes.length = s.scenes.length
  scene : ∀ (i : Nat) (c : Scene), s.scenes[i]? = some c →
    ∃ d, t.scenes[i]? = some d ∧ c.Evolves d
  startDepth : t.startDepth = s.startDepth
  registry : t.registry = s.registry

variable {s t u : Show}

namespace Evolves

theorem of_eq (hs : t.scenes = s.scenes) (hd : t.startDepth = s.startDepth)
    (hr : t.registry = s.registry) : s.Evolves t :=
  ⟨by rw [hs], fun _ c h => ⟨c, hs ▸ h, .refl c⟩, hd, hr⟩

theorem refl (s : Show) : s.Evolves s := of_eq rfl rfl rfl

theorem trans (h : s.Evolves t) (k : t.Evolves u) : s.Evolves u := by
  refine ⟨k.length.trans h.length, fun i c hc => ?_, k.startDepth.trans h.startDepth,
    k.registry.trans h.registry⟩
  obtain ⟨d, hd, hcd⟩ := h.scene i c hc
  obtain ⟨e, he, hde⟩ := k.scene i d hd
  exact ⟨e, he, hcd.trans hde⟩

theorem modifyScene (s : Show) (index : Nat) {f : Scene → Scene}
    (h : ∀ c : Scene, c.Evolves (f c)) :
    s.Evolves (s.modifyScene index f) := by
  refine ⟨by simp [Show.modifyScene], fun i c hc => ?_, rfl, rfl⟩
  by_cases hi : index = i
  · exact ⟨f c, by simp [Show.modifyScene, hi, hc], h c⟩
  · exact ⟨c, by simp [Show.modifyScene, List.getElem?_modify_ne, hi, hc], .refl c⟩

theorem stopScene (s : Show) (name : String) : s.Evolves (s.stopScene name).2 := by
  unfold Show.stopScene
  split
  · split
    · exact of_eq rfl rfl rfl
    · exact (modifyScene s _ Scene.Evolves.stop).trans (of_eq rfl rfl rfl)
  · exact of_eq rfl rfl rfl

theorem names (h : s.Evolves t) : t.scenes.map (·.name) = s.scenes.map (·.name) := by
  refine List.ext_getElem? fun i => ?_
  rw [List.getElem?_map, List.getElem?_map]
  cases hc : s.scenes[i]? with
  | some c =>
    obtain ⟨d, hd, hcd⟩ := h.scene i c hc
    rw [hd, Option.map_some, Option.map_some, hcd.name]
  | none =>
    rw [List.getElem?_eq_none_iff, ← h.length, ← List.getElem?_eq_none_iff] at hc
    rw [hc]

end Evolves

theorem AfterReading.evolves (h : AfterReading s t) : s.Evolves t :=
  .of_eq h.scenes h.startDepth h.registry

theorem getElem?_of_sceneIndex? {name : String} {index : Nat} {c : Scene}
    (hi : s.sceneIndex? name = some index) (hc : s.scene? name = some c) :
    s.scenes[index]? = some c := by
  unfold sceneIndex? at hi
  unfold scene? at hc
  rw [List.find?_eq_bind_findIdx?_getElem?, hi] at hc
  exact hc

theorem exists_sceneIndex? {name : String} {c : Scene} (hc : s.scene? name = some c) :
    ∃ index, s.sceneIndex? name = some index := by
  unfold scene? at hc
  rw [List.find?_eq_bind_findIdx?_getElem?] at hc
  obtain ⟨index, hi, _⟩ := Option.bind_eq_some_iff.mp hc
  exact ⟨index, hi⟩

theorem fresh_gate {c : Scene} (hc : c.Fresh) (he : c.enabled) {ts : List Trigger}
    (ht : ∀ t ∈ ts, ∃ condition now, t = .ofCondition condition c.name now)
    (actions : List String) : (gate c ts actions).Fresh := by
  have hl : (gate c ts actions).triggers.length = c.triggers.length + ts.length := by simp [gate]
  have ha : ∀ a ∈ (gate c ts actions).actions, a ∈ c.actions ∨
      ts ≠ [] ∧ ∃ text, a = .ofText text (List.range' c.triggers.length ts.length) := by
    intro a ha
    unfold gate at ha
    dsimp only at ha
    split at ha
    · exact .inl ha
    · next hn =>
      rcases List.mem_append.mp ha with ha | ha
      · exact .inl ha
      · obtain ⟨text, _, rfl⟩ := List.mem_map.mp ha
        exact .inr ⟨by simpa using hn, text, rfl⟩
  refine ⟨fun t h => ?_, fun a h => ?_, fun a h => ?_, fun h => ?_⟩
  · rcases List.mem_append.mp h with h | h
    · exact hc.triggers t h
    · exact ht t h
  · rcases ha a h with h | ⟨_, text, rfl⟩
    · exact hc.actions a h
    · exact ⟨rfl, rfl⟩
  · rw [hl]
    rcases ha a h with h | ⟨hn, text, rfl⟩
    · obtain ⟨h0, hj⟩ := hc.bound a h
      exact ⟨h0, fun j h => by have := hj j h; omega⟩
    · refine ⟨by simpa [Action.ofText] using hn, fun j h => ?_⟩
      simp only [Action.ofText, List.mem_range'_1] at h
      omega
  · rw [show (gate c ts actions).enabled = c.enabled from rfl, he] at h
    cases h

/-- A scene is being built anew: it is in its next generation, and all else is as it was. -/
structure Rebuilt (s : Show) (index : Nat) (c : Scene) (t : Show) : Prop where
  others : ∀ i, index ≠ i → t.scenes[i]? = s.scenes[i]?
  scene : ∃ d, t.scenes[index]? = some d ∧ d.name = c.name ∧ d.folder = c.folder ∧
    d.content = c.content ∧ d.generation = c.generation + 1 ∧ d.enabled ∧ d.Fresh
  length : t.scenes.length = s.scenes.length
  startDepth : t.startDepth = s.startDepth
  registry : t.registry = s.registry
  stage : t.stage = s.stage

namespace Rebuilt

variable {index : Nat} {c : Scene}

theorem clear (hc : s.scenes[index]? = some c) :
    Rebuilt s index c
      (s.modifyScene index fun c => { c.reset with enabled := true, fromFolder := "" }) := by
  refine ⟨fun i hi => by simp [modifyScene, List.getElem?_modify_ne, hi], ?_,
    by simp [modifyScene], rfl, rfl, rfl⟩
  refine ⟨{ c.reset with enabled := true, fromFolder := "" }, by simp [modifyScene, hc],
    rfl, rfl, rfl, rfl, rfl, ?_, ?_, ?_, ?_⟩ <;> simp [Scene.reset]

theorem afterReading (h : Rebuilt s index c t) (hr : AfterReading t u) : Rebuilt s index c u :=
  ⟨fun i hi => by rw [hr.scenes, h.others i hi], by rw [hr.scenes]; exact h.scene,
    by rw [hr.scenes, h.length], hr.startDepth.trans h.startDepth,
    hr.registry.trans h.registry, hr.stage.trans h.stage⟩

theorem gate (h : Rebuilt s index c t) {ts : List Trigger}
    (ht : ∀ t ∈ ts, ∃ condition now, t = .ofCondition condition c.name now)
    (actions : List String) :
    Rebuilt s index c (t.modifyScene index fun d => Show.gate d ts actions) := by
  refine ⟨fun i hi => ?_, ?_, by simp [modifyScene, h.length], h.startDepth, h.registry, h.stage⟩
  · rw [← h.others i hi]
    simp [modifyScene, List.getElem?_modify_ne, hi]
  · obtain ⟨d, hd, hn, hf, hc, hg, he, hfr⟩ := h.scene
    exact ⟨Show.gate d ts actions, by simp [modifyScene, hd], hn, hf, hc, hg, he,
      fresh_gate hfr he (by rw [hn]; exact ht) actions⟩

theorem buildGroup (h : Rebuilt s index c t) (g : Scene.Group) :
    Rebuilt s index c (Show.buildGroup index c.name t g) := by
  unfold Show.buildGroup
  split
  · exact h
  · split
    · exact h.afterReading (.report t _)
    · exact (h.afterReading (.buildTriggers _ _ t)).gate
        (fun _ hm => ofCondition_of_buildTriggers hm) g.actions

theorem rebuild (hc : s.scenes[index]? = some c) : Rebuilt s index c (s.rebuild index c) := by
  unfold Show.rebuild
  generalize Scene.groups c.content = groups
  have hs := clear hc
  dsimp only
  generalize s.modifyScene index _ = t at hs ⊢
  induction groups generalizing t with
  | nil => exact hs
  | cons g gs ih => exact ih _ (hs.buildGroup g)

theorem evolves (h : Rebuilt s index c t) (hc : s.scenes[index]? = some c) : s.Evolves t := by
  refine ⟨h.length, fun i e he => ?_, h.startDepth, h.registry⟩
  by_cases hi : index = i
  · subst hi
    rw [hc] at he
    cases he
    obtain ⟨d, hd, hn, hf, hc', hg, _, hfr⟩ := h.scene
    exact ⟨d, hd, hn, hf, hc', .inr ⟨by omega, hfr⟩⟩
  · exact ⟨e, by rw [h.others i hi, he], .refl e⟩

end Rebuilt
end Showrunner.Show
