import Mathlib.Data.List.Nodup
import Showrunner.Proofs.Scene.Coherence
import Showrunner.Proofs.Show.Calls
import Showrunner.Proofs.Show.Performance
import Showrunner.Proofs.Show.Turns

namespace Showrunner.Show

/-- What holds of a show between calls. -/
structure Coherent (s : Show) : Prop where
  distinct : (s.scenes.map fun c => Text.lowerAscii c.name).Nodup
  scene : ∀ c ∈ s.scenes, c.Coherent
  idle : s.startDepth = 0
  registry : s.registry = .builtin

/-- What holds while the scene at a position has its turn: once what fired in it is forgotten, the
show is coherent. -/
def Handling (index : Nat) (s : Show) : Prop := (s.modifyScene index Scene.clearFired).Coherent

variable {s t : Show} {index : Nat}

theorem scene?_of_mem (h : (s.scenes.map fun c => Text.lowerAscii c.name).Nodup) {c : Scene}
    (hc : c ∈ s.scenes) {name : String} (hn : Text.lowerAscii c.name = Text.lowerAscii name) :
    s.scene? name = some c := by
  unfold Show.scene?
  cases hf : s.scenes.find? fun d => Text.sameIgnoringCase d.name name with
  | none => exact absurd (List.find?_eq_none.mp hf c hc) (by simp [Text.sameIgnoringCase, hn])
  | some d =>
    have hd : d ∈ s.scenes := List.mem_of_find?_eq_some hf
    have hs := List.find?_some hf
    have hdn : Text.lowerAscii d.name = Text.lowerAscii name := beq_iff_eq.mp hs
    rw [List.inj_on_of_nodup_map h hd hc (hdn.trans hn.symm)]

namespace Coherent

theorem start (display : Nat × Nat) (framerate : Nat) (evaluator : Evaluator) (dice : Dice)
    (disk : Disk) : (Show.start display framerate evaluator dice disk).Coherent :=
  ⟨.nil, fun _ h => absurd h List.not_mem_nil, rfl, rfl⟩

theorem evolves (h : s.Coherent) (he : s.Evolves t) : t.Coherent := by
  have hn : (t.scenes.map fun c => Text.lowerAscii c.name) =
      s.scenes.map fun c => Text.lowerAscii c.name := by
    simpa only [List.map_map, Function.comp_def] using congrArg (List.map Text.lowerAscii) he.names
  refine ⟨by rw [hn]; exact h.distinct, fun d hd => ?_, he.startDepth.trans h.idle,
    he.registry.trans h.registry⟩
  obtain ⟨i, hi, rfl⟩ := List.getElem_of_mem hd
  obtain ⟨d, hd, hcd⟩ := he.scene i _ (List.getElem?_eq_getElem (he.length ▸ hi))
  rw [List.getElem?_eq_getElem hi] at hd
  cases hd
  exact (h.scene _ (List.getElem_mem _)).evolves hcd

theorem of_eq (h : s.Coherent) (hs : t.scenes = s.scenes) (hd : t.startDepth = s.startDepth)
    (hr : t.registry = s.registry) : t.Coherent :=
  h.evolves (.of_eq hs hd hr)

theorem scene?_name (h : s.Coherent) {c : Scene} (hc : c ∈ s.scenes) :
    s.scene? c.name = some c :=
  scene?_of_mem h.distinct hc rfl

theorem modifyScene (h : s.Coherent) {f : Scene → Scene}
    (hf : ∀ c, s.scenes[index]? = some c →
      (f c).Coherent ∧ Text.lowerAscii (f c).name = Text.lowerAscii c.name) :
    (s.modifyScene index f).Coherent := by
  have hg : ∀ i, (s.modifyScene index f).scenes[i]? =
      s.scenes[i]?.map fun c => if index = i then f c else c := fun i => by
    simp [Show.modifyScene, List.getElem?_modify]
  refine ⟨?_, fun d hd => ?_, h.idle, h.registry⟩
  · have hm : ((s.modifyScene index f).scenes.map fun c => Text.lowerAscii c.name) =
        s.scenes.map fun c => Text.lowerAscii c.name := by
      refine List.ext_getElem? fun i => ?_
      rw [List.getElem?_map, List.getElem?_map, hg]
      cases hc : s.scenes[i]? with
      | none => rfl
      | some c =>
        by_cases hi : index = i
        · subst hi
          simp [(hf c hc).2]
        · simp [hi]
    rw [hm]
    exact h.distinct
  · obtain ⟨i, hi⟩ := List.getElem?_of_mem hd
    rw [hg] at hi
    obtain ⟨c, hc, rfl⟩ := Option.map_eq_some_iff.mp hi
    by_cases hi : index = i
    · subst hi
      rw [if_pos rfl]
      exact (hf c hc).1
    · rw [if_neg hi]
      exact h.scene c (List.mem_of_getElem? hc)

theorem addScene (h : s.Coherent) {c : Scene} (hc : c.Coherent) : (s.addScene c).Coherent := by
  unfold Show.addScene
  split
  · next index hi =>
    refine h.modifyScene fun d hd => ⟨hc, ?_⟩
    obtain ⟨hl, hsame, _⟩ := List.findIdx?_eq_some_iff_getElem.mp hi
    rw [List.getElem?_eq_getElem hl] at hd
    cases hd
    exact (beq_iff_eq.mp hsame).symm
  · next hi =>
    have hn := List.findIdx?_eq_none_iff.mp hi
    refine ⟨?_, fun d hd => ?_, h.idle, h.registry⟩
    · rw [List.map_append, List.nodup_append]
      refine ⟨h.distinct, List.nodup_cons.mpr ⟨List.not_mem_nil, .nil⟩, fun a ha b hb => ?_⟩
      obtain ⟨d, hd, rfl⟩ := List.mem_map.mp ha
      rw [List.map_singleton, List.mem_singleton] at hb
      rw [hb]
      simpa [Text.sameIgnoringCase] using hn d hd
    · rcases List.mem_append.mp hd with hd | hd
      · exact h.scene d hd
      · rw [List.mem_singleton.mp hd]
        exact hc

theorem install (h : s.Coherent) {script : Script} (hl : script.Loaded) :
    (s.install script).Coherent := by
  have hr : (s.reportAll (script.problems.map Problem.anywhere)).Coherent := h.of_eq rfl rfl rfl
  have hc : ∀ c ∈ script.scenes, c.Coherent := fun c hc => by
    rw [hl.unstarted c hc]
    exact Scene.coherent_ofContent _ _ _
  unfold Show.install
  generalize s.reportAll _ = t at hr ⊢
  generalize script.scenes = scenes at hc ⊢
  induction scenes generalizing t with
  | nil => exact hr
  | cons c scenes ih =>
    exact ih _ (hr.addScene (hc c List.mem_cons_self)) fun d hd => hc d (List.mem_cons_of_mem _ hd)

end Coherent

namespace Handling

theorem evolves (h : Handling index s) (he : s.Evolves t) : Handling index t := by
  refine Coherent.evolves h ⟨by simp [modifyScene, he.length], fun i c hc => ?_, he.startDepth,
    he.registry⟩
  simp only [modifyScene, List.getElem?_modify, Option.map_eq_map] at hc ⊢
  obtain ⟨b, hb, rfl⟩ := Option.map_eq_some_iff.mp hc
  obtain ⟨d, hd, hcd⟩ := he.scene i b hb
  by_cases hi : index = i
  · exact ⟨d.clearFired, by simp [hi, hd], by simpa [hi] using hcd.clearFired⟩
  · exact ⟨d, by simp [hi, hd], by simpa [hi] using hcd⟩

theorem registry (h : Handling index s) : s.registry = .builtin := by
  have hr := Coherent.registry h
  exact hr

theorem noteAt (h : Handling index s) (position : Nat) (p : Performance) :
    Handling index (s.noteAt index position p) := by
  have hm : (s.noteAt index position p).modifyScene index Scene.clearFired =
      (s.modifyScene index Scene.clearFired).modifyScene index fun c =>
        { c with actions := c.actions.modify position (noteAction p) } := by
    simp only [Show.noteAt, modifyScene, List.modify_modify_eq]
    rfl
  unfold Handling
  rw [hm]
  exact Coherent.modifyScene h fun c hc =>
    ⟨(Coherent.scene h c (List.mem_of_getElem? hc)).modifyAction position fun _ => rfl, rfl⟩

theorem performDue (scene : String) (generation : Option Nat) (positions : List Nat)
    (h : Handling index s) : Handling index (performDue index scene generation positions s) := by
  induction positions generalizing s with
  | nil => exact h
  | cons position rest ih =>
    unfold Show.performDue
    split
    · exact ih h
    · next kind text _ =>
      have ha : Handling index (s.announce kind) := h.evolves (.of_eq rfl rfl rfl)
      have hp := ha.evolves (upheld_evolves.act _ text scene ha.registry)
      dsimp only
      split
      · exact hp
      · exact ih (hp.noteAt position _)

end Handling

namespace Coherent

theorem handling (h : s.Coherent) {c : Scene} (hc : s.scenes[index]? = some c) (he : c.enabled)
    (input : Input) :
    Handling index ((updateTriggers c.name c.triggers input s).2.2.modifyScene index fun d =>
      { d with triggers := (updateTriggers c.name c.triggers input s).1 }) := by
  have hr := AfterReading.updateTriggers c.name c.triggers input s
  have ht : (updateTriggers c.name c.triggers input s).2.2.Coherent := h.evolves hr.evolves
  unfold Handling
  simp only [Show.modifyScene, List.modify_modify_eq]
  refine ht.modifyScene fun d hd => ⟨?_, rfl⟩
  rw [hr.scenes, hc] at hd
  cases hd
  exact (h.scene c (List.mem_of_getElem? hc)).update he (length_updateTriggers ..)
    fun u hu => mem_updateTriggers hu

theorem visit (h : s.Coherent) (input : Input) (index : Nat) :
    (s.visit input index).1.Coherent := by
  cases hc : s.scenes[index]? with
  | none => simpa [Show.visit, hc] using h
  | some c =>
    cases he : c.enabled with
    | false => rwa [visit_of_not_enabled hc he]
    | true =>
      rw [visit_of_enabled hc he rfl]
      exact (h.handling hc he input).performDue c.name _ _

theorem opened (h : s.Coherent) (clock : FrameClock) (input : Input) :
    (s.opened clock input).1.Coherent := by
  obtain ⟨vars, hv⟩ := opened_eq s clock input
  rw [hv]
  exact h.of_eq rfl rfl rfl

theorem turn (h : s.Coherent) (clock : FrameClock) (input : Input) (n : Nat) :
    (s.turn clock input n).1.Coherent := by
  induction n with
  | zero => exact h.opened clock input
  | succ n ih => exact ih.visit _ n

theorem run (h : s.Coherent) {c : Call} (hc : c.Proper) : (c.run s).Coherent := by
  cases c with
  | install script => exact h.install hc
  | begin clock =>
    have hs : (s.setClock clock).Coherent := h.of_eq rfl rfl rfl
    exact hs.evolves (upheld_evolves.startScene _ _ hs.registry)
  | startScene name => exact h.evolves (upheld_evolves.startScene s name h.registry)
  | stopScene name => exact h.evolves (.stopScene s name)
  | command line scene => exact h.evolves (upheld_evolves.command s line scene h.registry)
  | frame clock input =>
    have ht := h.turn clock input s.scenes.length
    rwa [← frame_eq_turn] at ht
  | readDuration text => exact h.evolves (AfterReading.readDuration s text).evolves
  | resolveTag kind scene tag => exact h.evolves (AfterReading.resolveTag s kind scene tag).evolves
  | assign | send | setImageSize | report | takeDiagnostics | requestExit =>
    exact h.of_eq rfl rfl rfl

end Coherent

/-- Whatever a host does, the show is coherent after it. -/
theorem Reachable.coherent (h : Reachable Call.Proper s) : s.Coherent :=
  h.invariant .start fun _ _ ih hc => ih.run hc

/-- Between calls, the names of the scenes differ in more than case, no trigger counts as fired,
each action is gated by triggers of its scene, and stopped scenes have nothing left to run. -/
theorem invariants_of_reachable (h : Reachable Call.Proper s) :
    (∀ (i j : Nat) (c d : Scene), s.scenes[i]? = some c → s.scenes[j]? = some d →
      Text.sameIgnoringCase c.name d.name → i = j) ∧
    (∀ c ∈ s.scenes,
      (∀ t ∈ c.triggers, t.fired = false ∧ t.scene = c.name ∧
        (t.kind = .onKey ∨ t.kind = .onClick ∨ t.kind = .whenTrue ∨ t.kind = .whileTrue →
          t.expired = false ∧ t.nextEligible = 0) ∧
        (t.expired → t.kind = .after ∨ t.kind = .atTime)) ∧
      (∀ a ∈ c.actions, a.triggers ≠ [] ∧ ∀ j ∈ a.triggers, j < c.triggers.length) ∧
      (c.enabled = false → c.actions = [] ∧ c.triggers = [])) ∧
    s.startDepth = 0 := by
  have hs := h.coherent
  refine ⟨fun i j c d hi hj hn => ?_, fun c hc => ?_, hs.idle⟩
  · have hil := (List.getElem?_eq_some_iff.mp hi).1
    refine (List.getElem?_inj (by simpa using hil) hs.distinct).mp ?_
    rw [List.getElem?_map, List.getElem?_map, hi, hj]
    exact congrArg some (beq_iff_eq.mp hn)
  · have hc := hs.scene c hc
    exact ⟨fun t ht => ⟨hc.unfired t ht, hc.owned t ht, (hc.settled t ht).prompt,
      (hc.settled t ht).expired⟩, hc.bound, hc.stopped⟩

theorem invariants_clickShow :
    clickShow.scenes.map (fun c => (c.triggers.length, c.actions.length)) = [(1, 1)] ∧
      ∀ c ∈ clickShow.scenes, ∀ t ∈ c.triggers, t.fired = false ∧ t.scene = c.name :=
  ⟨by decide +kernel, fun c hc t ht => by
    have hi := ((invariants_of_reachable reachable_clickShow).2.1 c hc).1 t ht
    exact ⟨hi.1, hi.2.1⟩⟩

end Showrunner.Show
