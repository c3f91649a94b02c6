import Showrunner.Proofs.Show.Coherence

namespace Showrunner.Show

def firedKind? (before after : List Trigger) (a : Action) : Option Trigger.Kind :=
  (a.triggers.find? fun j => before[j]?.any (!·.fired) && after[j]?.any (·.fired)).bind fun j =>
    after[j]?.map (·.kind)

/-- The action at a position with the kind that it is due for: it is not complete, and a trigger
that gates it fired in the update. -/
def dueAt? (c : Scene) (updated : List Trigger) (position : Nat) :
    Option (Nat × Trigger.Kind × String) :=
  (c.actions[position]?.filter (!·.complete)).bind fun a =>
    (firedKind? c.triggers updated a).map fun kind => (position, kind, a.text)

def due (c : Scene) (updated : List Trigger) : List (Nat × Trigger.Kind × String) :=
  (List.range c.actions.length).filterMap (dueAt? c updated)

structure Performed where
  position : Nat
  kind : Trigger.Kind
  text : String
  before : Show
  outcome : Performance
  after : Show

def Performed.due (p : Performed) : Nat × Trigger.Kind × String := (p.position, p.kind, p.text)

/-- Performing actions in order leads from one show to another. It goes on as long as the scene
keeps its generation, and then what became of an action is noted. -/
inductive Performs (index : Nat) (scene : String) (generation : Option Nat) :
    Show → List Performed → Show → Prop
  | done (s : Show) : Performs index scene generation s [] s
  | last {s : Show} {p : Performed} (hb : p.before = s.announce p.kind)
    (ha : p.before.act p.text scene = (p.outcome, p.after))
    (hg : p.after.generation? index ≠ generation) : Performs index scene generation s [p] p.after
  | next {s t : Show} {p : Performed} {ps : List Performed} (hb : p.before = s.announce p.kind)
    (ha : p.before.act p.text scene = (p.outcome, p.after))
    (hg : p.after.generation? index = generation)
    (h : Performs index scene generation (p.after.noteAt index p.position p.outcome) ps t) :
    Performs index scene generation s (p :: ps) t

def handled? (s : Show) (index : Nat) : Option (List Trigger × List Action) :=
  s.scenes[index]?.map fun c => (c.triggers, c.actions)

/-- What the turn of an enabled scene comes to. -/
structure Served (index : Nat) (c : Scene) (s : Show) (input : Input) (performed : List Performed)
    (after : Show × Input) : Prop where
  /-- The triggers are updated, then actions are performed, and then nothing counts as fired. -/
  runs : ∃ updated rest t u, updateTriggers c.name c.triggers input s = (updated, rest, t) ∧
    Performs index c.name (some c.generation)
      (t.modifyScene index fun c => { c with triggers := updated }) performed u ∧
    after = (u.modifyScene index Scene.clearFired, rest) ∧
    performed.map Performed.due <+: due c updated ∧
    (performed.map Performed.due = due c updated ∨
      ∃ p, performed.getLast? = some p ∧ p.after.generation? index ≠ some c.generation)
  trigger : ∀ p ∈ performed, p.before.vars.get? "TRIGGER" topLevel = some p.kind.name
  kept : ∀ p ∈ performed, p.after.generation? index = some c.generation →
    p.after.handled? index = p.before.handled? index

theorem get?_announce (s : Show) (kind : Trigger.Kind) :
    (s.announce kind).vars.get? "TRIGGER" topLevel = some kind.name := by
  have hq : Variables.qualify "TRIGGER" topLevel = "TRIGGER" := rfl
  have hn : "TRIGGER".toList = ['T', 'R', 'I', 'G', 'G', 'E', 'R'] := rfl
  simp [announce, setVar, Variables.get?, Variables.set, hn, hq, Table.get?_insert]

/-- Performing for a scene cannot touch the triggers and actions of one that keeps its
generation. -/
theorem Evolves.handled_eq {s t : Show} (h : s.Evolves t) {index : Nat}
    (hg : t.generation? index = s.generation? index) : t.handled? index = s.handled? index := by
  unfold generation? at hg
  unfold handled?
  cases hc : s.scenes[index]? with
  | none =>
    rw [List.getElem?_eq_none_iff, ← h.length, ← List.getElem?_eq_none_iff] at hc
    rw [hc]
  | some c =>
    obtain ⟨d, hd, hcd⟩ := h.scene index c hc
    rw [hc, hd] at hg
    obtain ⟨_, ht, ha⟩ := hcd.eq_of_generation (Option.some.inj hg)
    rw [hd, Option.map_some, Option.map_some, ht, ha]

theorem firedKind?_eq {before : List Trigger} (hb : ∀ t ∈ before, t.fired = false) {c : Scene}
    (hl : c.triggers.length = before.length) (a : Action) :
    firedKind? before c.triggers a = c.firstFired a := by
  unfold firedKind? Scene.firstFired
  induction a.triggers with
  | nil => rfl
  | cons j js ih =>
    cases hu : c.triggers[j]? with
    | none => simpa [hu] using ih
    | some u =>
      have hj : j < before.length := hl ▸ (List.getElem?_eq_some_iff.mp hu).1
      have ht : before[j]? = some before[j] := List.getElem?_eq_getElem hj
      have hf := hb _ (List.getElem_mem hj)
      cases hfu : u.fired with
      | true => simp [hu, ht, hf, hfu]
      | false => simpa [hu, hfu] using ih

/-- The scene at a position runs on as it was when its triggers were updated, as far as the actions
at some positions go. -/
def RunsOn (index : Nat) (c : Scene) (updated : List Trigger) (positions : List Nat) (s : Show) :
    Prop :=
  ∃ d, s.scenes[index]? = some d ∧ d.generation = c.generation ∧ d.triggers = updated ∧
    ∀ j ∈ positions, d.actions[j]? = c.actions[j]?

section

variable {index : Nat} {c : Scene} {updated : List Trigger} {positions : List Nat} {s t : Show}

namespace RunsOn

theorem generation (h : RunsOn index c updated positions s) :
    s.generation? index = some c.generation := by
  obtain ⟨d, hd, hg, _⟩ := h
  rw [generation?, hd, Option.map_some, hg]

theorem mono {rest : List Nat} (h : RunsOn index c updated positions s) (hr : rest ⊆ positions) :
    RunsOn index c updated rest s := by
  obtain ⟨d, hd, hg, ht, ha⟩ := h
  exact ⟨d, hd, hg, ht, fun j hj => ha j (hr hj)⟩

theorem evolves (h : RunsOn index c updated positions s) (he : s.Evolves t)
    (hg : t.generation? index = some c.generation) : RunsOn index c updated positions t := by
  obtain ⟨d, hd, hdg, ht, ha⟩ := h
  obtain ⟨e, hse, hde⟩ := he.scene index d hd
  rw [generation?, hse] at hg
  have heg : e.generation = c.generation := Option.some.inj hg
  obtain ⟨_, het, hea⟩ := hde.eq_of_generation (heg.trans hdg.symm)
  exact ⟨e, hse, heg, het.trans ht, by rw [hea]; exact ha⟩

theorem noteAt {position : Nat} (h : RunsOn index c updated positions s)
    (hp : position ∉ positions) (p : Performance) :
    RunsOn index c updated positions (s.noteAt index position p) := by
  obtain ⟨d, hd, hg, ht, ha⟩ := h
  refine ⟨{ d with actions := d.actions.modify position (noteAction p) }, ?_, hg, ht,
    fun j hj => ?_⟩
  · simp [Show.noteAt, modifyScene, hd]
  · have hne : position ≠ j := fun he => hp (he ▸ hj)
    rw [← ha j hj]
    simp [hne]

/-- Whether an action is due can be told from the scene as it was before its turn. -/
theorem dueAction?_eq {position : Nat} (h : RunsOn index c updated (position :: positions) s)
    (hf : ∀ t ∈ c.triggers, t.fired = false) (hl : updated.length = c.triggers.length) :
    s.scenes[index]?.bind (dueAction? · position) =
      (dueAt? c updated position).map fun d => (d.2.1, d.2.2) := by
  obtain ⟨d, hd, _, rfl, ha⟩ := h
  have hk := fun a => (firedKind?_eq hf hl a).symm
  rw [hd, Option.bind_some]
  unfold dueAction? dueAt?
  rw [ha position List.mem_cons_self]
  cases c.actions[position]? with
  | none => rfl
  | some a =>
    cases hc : a.complete with
    | true => simp [hc, Option.filter]
    | false => cases hfk : firedKind? c.triggers d.triggers a <;> simp [hc, hk, hfk, Option.filter]

end RunsOn

theorem eq_of_dueAt? {position : Nat} {due : Nat × Trigger.Kind × String}
    (h : dueAt? c updated position = some due) : due = (position, due.2.1, due.2.2) := by
  obtain ⟨a, _, ha⟩ := Option.bind_eq_some_iff.mp h
  obtain ⟨kind, _, rfl⟩ := Option.map_eq_some_iff.mp ha
  rfl

theorem performs_performDue (hb : s.registry = .builtin) (hf : ∀ t ∈ c.triggers, t.fired = false)
    (hl : updated.length = c.triggers.length) (hn : positions.Nodup)
    (h : RunsOn index c updated positions s) :
    ∃ performed, Performs index c.name (some c.generation) s performed
        (performDue index c.name (some c.generation) positions s) ∧
      performed.map Performed.due <+: positions.filterMap (dueAt? c updated) ∧
      (performed.map Performed.due = positions.filterMap (dueAt? c updated) ∨
        ∃ p, performed.getLast? = some p ∧ p.after.generation? index ≠ some c.generation) := by
  induction positions generalizing s with
  | nil => exact ⟨[], .done s, List.nil_prefix, .inl rfl⟩
  | cons position rest ih =>
    have hr := h.mono (List.subset_cons_self position rest)
    obtain ⟨hnp, hnr⟩ := List.nodup_cons.mp hn
    have hd := h.dueAction?_eq hf hl
    unfold performDue
    cases hdue : dueAt? c updated position with
    | none =>
      rw [hdue] at hd
      rw [List.filterMap_cons_none hdue, hd]
      exact ih hb hnr hr
    | some due =>
      rw [hdue] at hd
      rw [List.filterMap_cons_some hdue, hd, eq_of_dueAt? hdue]
      obtain ⟨_, kind, text⟩ := due
      have ha : s.Evolves (s.announce kind) := .of_eq rfl rfl rfl
      have he := ha.trans (upheld_evolves.act _ text c.name (ha.registry.trans hb))
      dsimp only [Option.map_some]
      rcases hact : (s.announce kind).act text c.name with ⟨outcome, t⟩
      rw [hact] at he
      let p : Performed := ⟨position, kind, text, s.announce kind, outcome, t⟩
      by_cases hg : t.generation? index = some c.generation
      · have hb' : (t.noteAt index position outcome).registry = .builtin := he.registry.trans hb
        obtain ⟨ps, hps, hpre, hwhole⟩ := ih hb' hnr ((hr.evolves he hg).noteAt hnp outcome)
        refine ⟨p :: ps, ?_, ?_, ?_⟩
        · rw [if_neg (by simpa using hg)]
          exact .next rfl hact hg hps
        · exact (List.prefix_cons_inj _).mpr hpre
        · rcases hwhole with hw | ⟨q, hq, hqg⟩
          · exact .inl (by rw [List.map_cons, hw]; rfl)
          · exact .inr ⟨q, by rw [List.getLast?_cons, hq]; rfl, hqg⟩
      · refine ⟨[p], ?_, ?_, .inr ⟨p, rfl, hg⟩⟩
        · rw [if_pos (by simpa using hg)]
          exact .last rfl hact hg
        · exact (List.prefix_cons_inj _).mpr List.nil_prefix

theorem Evolves.performed {scene : String} {p : Performed} (hb : s.registry = .builtin)
    (hp : p.before = s.announce p.kind)
    (ha : p.before.act p.text scene = (p.outcome, p.after)) :
    s.Evolves p.before ∧ p.before.Evolves p.after := by
  have hs : s.Evolves p.before := by rw [hp]; exact .of_eq rfl rfl rfl
  have he := upheld_evolves.act p.before p.text scene (hs.registry.trans hb)
  rw [ha] at he
  exact ⟨hs, he⟩

namespace Performs

variable {scene : String} {generation : Option Nat} {performed : List Performed}

theorem length (h : Performs index scene generation s performed t) (hb : s.registry = .builtin) :
    t.scenes.length = s.scenes.length := by
  induction h with
  | done s => rfl
  | last hp ha _ =>
    obtain ⟨hs, he⟩ := Evolves.performed hb hp ha
    exact (hs.trans he).length
  | next hp ha _ _ ih =>
    obtain ⟨hs, he⟩ := Evolves.performed hb hp ha
    have hl := (hs.trans he).length
    exact (ih ((hs.trans he).registry.trans hb)).trans ((List.length_modify ..).trans hl)

/-- Each action that is performed meets the kind that it is due for, and leaves the scene's
triggers and actions alone unless it begins another generation. -/
theorem spec (h : Performs index scene generation s performed t) (hb : s.registry = .builtin)
    (hg : s.generation? index = generation) :
    ∀ p ∈ performed, p.before.vars.get? "TRIGGER" topLevel = some p.kind.name ∧
      (p.after.generation? index = generation →
        p.after.handled? index = p.before.handled? index) := by
  have hstep : ∀ {s : Show} {p : Performed}, s.registry = .builtin →
      s.generation? index = generation → p.before = s.announce p.kind →
      p.before.act p.text scene = (p.outcome, p.after) →
      p.before.vars.get? "TRIGGER" topLevel = some p.kind.name ∧
      (p.after.generation? index = generation →
        p.after.handled? index = p.before.handled? index) := by
    intro s p hb hg hp ha
    have hpg : p.before.generation? index = generation := by rw [hp]; exact hg
    exact ⟨by rw [hp]; exact get?_announce s p.kind,
      fun hag => (Evolves.performed hb hp ha).2.handled_eq (hag.trans hpg.symm)⟩
  induction h with
  | done s => simp
  | last hp ha _ =>
    intro q hq
    rw [List.mem_singleton.mp hq]
    exact hstep hb hg hp ha
  | @next s t p ps hp ha hag _ ih =>
    obtain ⟨hs, he⟩ := Evolves.performed hb hp ha
    have hn : (p.after.noteAt index p.position p.outcome).generation? index =
        p.after.generation? index := by
      simp [generation?, noteAt, modifyScene, Function.comp_def]
    intro q hq
    rcases List.mem_cons.mp hq with rfl | hq
    · exact hstep hb hg hp ha
    · exact ih ((hs.trans he).registry.trans hb) (hn.trans hag) q hq

end Performs

theorem served_visit (h : s.Coherent) (hc : s.scenes[index]? = some c) (he : c.enabled)
    (input : Input) : ∃ performed, Served index c s input performed (s.visit input index) := by
  rcases hu : updateTriggers c.name c.triggers input s with ⟨updated, rest, t⟩
  have hr : AfterReading s t := by
    have hr := AfterReading.updateTriggers c.name c.triggers input s
    rwa [hu] at hr
  have hl : updated.length = c.triggers.length := by
    have hl := length_updateTriggers c.name c.triggers input s
    rwa [hu] at hl
  have hb : (t.modifyScene index fun c => { c with triggers := updated }).registry = .builtin :=
    hr.registry.trans h.registry
  have hs : RunsOn index c updated (List.range c.actions.length)
      (t.modifyScene index fun c => { c with triggers := updated }) :=
    ⟨{ c with triggers := updated }, by simp [modifyScene, hr.scenes, hc], rfl, rfl,
      fun _ _ => rfl⟩
  have hg : t.generation? index = some c.generation := by simp [generation?, hr.scenes, hc]
  have hf := (h.scene c (List.mem_of_getElem? hc)).unfired
  obtain ⟨performed, hp, hpre, hwhole⟩ := performs_performDue hb hf hl List.nodup_range hs
  have hspec := hp.spec hb hs.generation
  rw [visit_of_enabled hc he hu, hg]
  exact ⟨performed, ⟨updated, rest, t, _, hu, hp, rfl, hpre, hwhole⟩, fun p hm => (hspec p hm).1,
    fun p hm => (hspec p hm).2⟩

theorem length_visit (h : s.Coherent) (input : Input) (index : Nat) :
    (s.visit input index).1.scenes.length = s.scenes.length := by
  cases hc : s.scenes[index]? with
  | none => simp [visit, hc]
  | some c =>
    cases he : c.enabled with
    | false => rw [visit_of_not_enabled hc he]
    | true =>
      obtain ⟨performed, hs⟩ := served_visit h hc he input
      obtain ⟨updated, rest, t, u, hu, hp, hv, _⟩ := hs.runs
      have hr := AfterReading.updateTriggers c.name c.triggers input s
      rw [hu] at hr
      have hts : t.scenes = s.scenes := hr.scenes
      have hl := hp.length (hr.registry.trans h.registry)
      rw [hv]
      simpa [modifyScene, hts] using hl

theorem length_turn (h : s.Coherent) (clock : FrameClock) (input : Input) (n : Nat) :
    (s.turn clock input n).1.scenes.length = s.scenes.length := by
  induction n with
  | zero =>
    obtain ⟨vars, hv⟩ := opened_eq s clock input
    rw [turn, hv]
  | succ n ih => exact (length_visit (h.turn clock input n) _ n).trans ih

end

/-- A frame gives each scene its turn, in the order of the list. A scene that is not enabled by
then is passed over. For one that is enabled, the actions that became due when its triggers were
updated are performed in order, up to the first that begins another generation of the scene. -/
theorem frame_performs_due {s : Show} (h : Reachable Call.Proper s) (clock : FrameClock)
    (input : Input) :
    (∃ turns : Nat → Show × Input, turns 0 = s.opened clock input ∧
      turns s.scenes.length = s.frame clock input ∧
      ∀ index < s.scenes.length, ∃ c, (turns index).1.scenes[index]? = some c ∧
        (c.enabled = false → turns (index + 1) = turns index) ∧
        (c.enabled → ∃ performed,
          Served index c (turns index).1 (turns index).2 performed (turns (index + 1)))) ∧
    ∀ (t : Show) (text scene : String) (index : Nat), t.registry = .builtin →
      (t.act text scene).2.generation? index = t.generation? index →
      (t.act text scene).2.handled? index = t.handled? index := by
  refine ⟨⟨s.turn clock input, rfl, (frame_eq_turn s clock input).symm, fun index hi => ?_⟩,
    fun t text scene index hb hg => (upheld_evolves.act t text scene hb).handled_eq hg⟩
  have ht := h.coherent.turn clock input index
  rw [← length_turn h.coherent clock input index] at hi
  exact ⟨_, List.getElem?_eq_getElem hi,
    fun he => visit_of_not_enabled (List.getElem?_eq_getElem hi) he _,
    fun he => served_visit ht (List.getElem?_eq_getElem hi) he _⟩

theorem frame_performs_due_clickShow :
    ∃ (turns : Nat → Show × Input) (c : Scene) (performed : List Performed),
      turns 1 = clickShow.frame ⟨80, .midnight⟩ (Input.clickAt {} 0 0) ∧
      Served 0 c (turns 0).1 (turns 0).2 performed (turns 1) := by
  have hl : clickShow.scenes.length = 1 := by decide +kernel
  have he : (clickShow.opened ⟨80, .midnight⟩ (Input.clickAt {} 0 0)).1.scenes.all (·.enabled) := by
    decide +kernel
  obtain ⟨turns, hfirst, hlast, ht⟩ :=
    (frame_performs_due reachable_clickShow ⟨80, .midnight⟩ (Input.clickAt {} 0 0)).1
  obtain ⟨c, hc, _, hs⟩ := ht 0 (by omega)
  rw [← hfirst] at he
  obtain ⟨performed, hp⟩ := hs (List.all_eq_true.mp he c (List.mem_of_getElem? hc))
  exact ⟨turns, c, performed, hl ▸ hlast, hp⟩

end Showrunner.Show
