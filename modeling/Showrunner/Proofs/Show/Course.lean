import Showrunner.Proofs.Show.Coherence
import Showrunner.Proofs.Show.Events
import Showrunner.Proofs.Stage.Track

namespace Showrunner

open Relation

namespace Show

def roster (s : Show) : List (String × Bool) := s.scenes.map fun c => (c.name, c.enabled)

def Runs (s : Show) (name : String) : Prop := (name, true) ∈ s.roster

/-- Nothing that events are about has changed. -/
structure Still (s t : Show) : Prop where
  stage : t.stage = s.stage
  roster : t.roster = s.roster
  registry : t.registry = s.registry

/-- What each event does to a show. A line that comes from the host can be for a scene that does
not run. -/
inductive Happens (hosted : Prop) : Show → Event → Show → Prop
  | starts {s : Show} {index : Nat} {c : Scene} (hc : s.scenes[index]? = some c) :
    Happens hosted s (.starts c.name) (s.rebuild index c)
  | stops {s : Show} {name : String} {index : Nat} {c : Scene}
    (hi : s.sceneIndex? name = some index) (hc : s.scene? name = some c)
    (ht : c.isTopLevel = false) :
    Happens hosted s (.stops c.name) (s.stopScene name).2
  | performs {s : Show} {text scene : String} (hr : s.Runs scene) :
    Happens hosted s (.performs s text scene) s
  | sends {s : Show} {scene : String} {e : Effect} (he : e.Fits s.stage scene)
    (hr : hosted ∨ s.Runs scene) : Happens hosted s (.sends scene e) (s.send e)

/-- Events lead from one show to another, with nothing but still changes between them. -/
inductive Course (hosted : Prop) : Show → List Event → Show → Prop
  | refl (s : Show) : Course hosted s [] s
  | still {s t u : Show} {es : List Event} (h : Still s t) (k : Course hosted t es u) :
    Course hosted s es u
  | step {s t u : Show} {e : Event} {es : List Event} (h : Happens hosted s e t)
    (k : Course hosted t es u) : Course hosted s (e :: es) u

variable {hosted : Prop} {s t u : Show} {es fs : List Event}

theorem runs_iff {name : String} :
    s.Runs name ↔ ∃ (i : Nat) (c : Scene), s.scenes[i]? = some c ∧ c.name = name ∧ c.enabled := by
  unfold Runs roster
  rw [List.mem_map]
  constructor
  · rintro ⟨c, hc, hn⟩
    obtain ⟨i, hi⟩ := List.getElem?_of_mem hc
    exact ⟨i, c, hi, (Prod.mk.inj hn).1, (Prod.mk.inj hn).2⟩
  · rintro ⟨i, c, hi, rfl, he⟩
    exact ⟨c, List.mem_of_getElem? hi, by rw [he]⟩

namespace Still

theorem refl (s : Show) : Still s s := ⟨rfl, rfl, rfl⟩

theorem of_afterReading (h : AfterReading s t) : Still s t := by
  obtain ⟨_, _, _, rfl⟩ := h
  exact ⟨rfl, rfl, rfl⟩

theorem modifyScene (s : Show) (index : Nat) {f : Scene → Scene}
    (h : ∀ c, (f c).name = c.name ∧ (f c).enabled = c.enabled) :
    Still s (s.modifyScene index f) := by
  refine ⟨rfl, List.ext_getElem? fun i => ?_, rfl⟩
  simp only [Show.roster, Show.modifyScene, List.getElem?_map, List.getElem?_modify]
  cases s.scenes[i]? with
  | none => rfl
  | some c =>
    obtain ⟨hn, he⟩ := h c
    by_cases hi : index = i <;> simp [hi, hn, he]

theorem noteAt (s : Show) (index position : Nat) (p : Performance) :
    Still s (s.noteAt index position p) :=
  .modifyScene s index fun _ => ⟨rfl, rfl⟩

theorem opened (s : Show) (clock : FrameClock) (input : Input) :
    Still s (s.opened clock input).1 := by
  obtain ⟨vars, h⟩ := opened_eq s clock input
  rw [h]
  exact ⟨rfl, rfl, rfl⟩

end Still

theorem Change.still_or_sends {scene : String} (h : Change scene s t) :
    Still s t ∨ ∃ e : Effect, e.Fits s.stage scene ∧ t = s.send e := by
  cases h with
  | send e he => exact .inr ⟨e, he, rfl⟩
  | useFolder index folder _ => exact .inl (.modifyScene s index fun _ => ⟨rfl, rfl⟩)
  | report | assign | remember | exit => exact .inl ⟨rfl, rfl, rfl⟩

theorem sentSince_eq {effects : List Effect}
    (h : t.stage.journal.toList = s.stage.journal.toList ++ effects) :
    sentSince s t = effects := by
  simp [sentSince, h]

theorem Happens.registry {e : Event} (h : Happens hosted s e t) : t.registry = s.registry := by
  cases h with
  | starts hc => exact (Rebuilt.rebuild hc).registry
  | stops => exact (Evolves.stopScene s _).registry
  | performs | sends => rfl

namespace Course

theorem of_still (h : Still s t) : Course hosted s [] t := .still h (.refl t)

theorem trans (h : Course hosted s es t) (k : Course hosted t fs u) :
    Course hosted s (es ++ fs) u := by
  induction h with
  | refl => exact k
  | still h _ ih => exact .still h (ih k)
  | step h _ ih => exact .step h (ih k)

theorem trans_still (h : Course hosted s es t) (k : Still t u) : Course hosted s es u := by
  simpa using h.trans (of_still k)

theorem registry (h : Course hosted s es t) : t.registry = s.registry := by
  induction h with
  | refl => rfl
  | still h _ ih => exact ih.trans h.registry
  | step h _ ih => exact ih.trans h.registry

theorem split (h : Course hosted s (es ++ fs) u) :
    ∃ t, Course hosted s es t ∧ Course hosted t fs u := by
  generalize hes : es ++ fs = all at h
  induction h generalizing es with
  | refl s =>
    obtain ⟨rfl, rfl⟩ := List.append_eq_nil_iff.mp hes
    exact ⟨s, .refl s, .refl s⟩
  | still hs _ ih =>
    obtain ⟨t, he, hf⟩ := ih hes
    exact ⟨t, .still hs he, hf⟩
  | @step s t u d ds hd hk ih =>
    cases es with
    | nil =>
      subst hes
      exact ⟨s, .refl s, .step hd hk⟩
    | cons e es =>
      obtain ⟨rfl, htail⟩ := List.cons.inj hes
      obtain ⟨v, he, hf⟩ := ih htail
      exact ⟨v, .step hd he, hf⟩

theorem happens {before later : List Event} {e : Event}
    (h : Course hosted s (before ++ e :: later) u) :
    ∃ s' t', Course hosted s before s' ∧ Happens hosted s' e t' ∧ Course hosted t' later u := by
  obtain ⟨t, hbefore, ht⟩ := h.split
  clear h
  generalize hes : e :: later = es at ht
  induction ht with
  | refl => cases hes
  | still hs _ ih => exact ih (hbefore.trans_still hs) hes
  | step he hk _ =>
    cases hes
    exact ⟨_, _, hbefore, he, hk⟩

theorem of_changes {scene : String} (h : ReflTransGen (Change scene) s t)
    (hr : hosted ∨ s.Runs scene) :
    Course hosted s ((sentSince s t).map (.sends scene)) t := by
  -- The effects are told apart from what was sent before by the length of the journal.
  suffices hc : ∃ effects : List Effect, Course hosted s (effects.map (.sends scene)) t ∧
      t.stage.journal.toList = s.stage.journal.toList ++ effects ∧ t.roster = s.roster by
    obtain ⟨effects, hc, hj, _⟩ := hc
    rwa [sentSince_eq hj]
  induction h with
  | refl => exact ⟨[], .refl s, by simp, rfl⟩
  | tail _ hm ih =>
    obtain ⟨effects, hc, hj, hn⟩ := ih
    rcases hm.still_or_sends with hs | ⟨e, he, rfl⟩
    · exact ⟨effects, hc.trans_still hs, by rw [hs.stage, hj], hs.roster.trans hn⟩
    · have hr' : hosted ∨ Runs _ scene := hr.imp_right fun h => by rw [Runs, hn]; exact h
      refine ⟨effects ++ [e], ?_, ?_, hn⟩
      · rw [List.map_append]
        exact hc.trans (.step (.sends he hr') (.refl _))
      · rw [send, Stage.journal_apply, hj, List.append_assoc]

end Course

structure Starts (hosted : Prop) (start : Show → String → Show)
    (events : Show → String → List Event) : Prop where
  course : ∀ (s : Show) name, s.registry = .builtin → Course hosted s (events s name) (start s name)
  evolves : ∀ (s : Show) name, s.registry = .builtin → s.Evolves (start s name)

theorem course_along {α : Type} {f : Show → α → Show} {events : Show → α → List Event}
    (h : ∀ s a, s.registry = .builtin → Course hosted s (events s a) (f s a)) (as : List α)
    (hb : s.registry = .builtin) : Course hosted s (along f events s as) (as.foldl f s) := by
  induction as generalizing s with
  | nil => exact .refl s
  | cons a as ih =>
    have ha := h s a hb
    exact ha.trans (ih (ha.registry.trans hb))

theorem exists_room (h : s.startDepth < maxStartDepth) :
    ∃ room, maxStartDepth - s.startDepth = room + 1 :=
  Nat.exists_eq_add_one.mpr (Nat.sub_pos_of_lt h)

theorem stopScene_of_none {name : String} (hc : s.scene? name = none) :
    s.stopScene name = (false, s.report (Problem.noScene name).anywhere) := by
  unfold stopScene
  rw [hc]
  cases s.sceneIndex? name <;> rfl

theorem stage_stopScene {name : String} {index : Nat} {c : Scene}
    (hi : s.sceneIndex? name = some index) (hc : s.scene? name = some c)
    (ht : c.isTopLevel = false) :
    (s.stopScene name).2.stage = s.stage.removeScene c.name := by
  simp [stopScene, hi, hc, ht]

theorem course_stopScene (s : Show) (name : String) :
    Course hosted s (s.stopEvents name) (s.stopScene name).2 := by
  unfold stopEvents
  cases hc : s.scene? name with
  | none =>
    rw [stopScene_of_none hc]
    exact .of_still ⟨rfl, rfl, rfl⟩
  | some c =>
    obtain ⟨index, hi⟩ := exists_sceneIndex? hc
    dsimp only
    cases ht : c.isTopLevel with
    | true =>
      simp only [stopScene, hi, hc, ht, if_pos]
      exact .of_still ⟨rfl, rfl, rfl⟩
    | false => exact .step (.stops hi hc ht) (.refl _)

variable {start : Show → String → Show} {events : Show → String → List Event}

section

variable (hst : Starts hosted start events)
include hst

theorem course_handler (hb : s.registry = .builtin) {handler : Handler} {inv : Invocation}
    (ht : handler.Tagged inv) (hr : hosted ∨ s.Runs inv.scene) :
    Course hosted s (handlerEvents start events s handler inv)
      ((handler.run start inv).run.run s).2 := by
  unfold handlerEvents
  by_cases hstart : handler = .start
  · have hrun := Command.run_startScenes start inv s
    subst hstart
    rw [if_pos rfl, Handler.run, hrun]
    cases hn : inv.list "list" with
    | nil => exact .of_still ⟨rfl, rfl, rfl⟩
    | cons name names => exact course_along hst.course _ hb
  · rw [if_neg hstart]
    by_cases hstop : handler = .stop
    · subst hstop
      rw [if_pos rfl, Handler.run, Command.run_stopScenes]
      exact course_along (fun s name _ => course_stopScene s name) _ hb
    · rw [if_neg hstop]
      exact .of_changes (handler.changes_run start hstart hstop ht).moves hr

theorem course_line (hb : s.registry = .builtin) (line : String) {scene : String}
    (hr : hosted ∨ s.Runs scene) :
    Course hosted s (lineEvents start events s line scene) (dispatch start s line scene).2 := by
  unfold lineEvents dispatch
  cases hf : s.registry.find? (Text.words line) with
  | none =>
    cases hw : (Text.words line).isEmpty with
    | true => simpa [hw] using Course.refl s
    | false =>
      simp only [hw, hf]
      exact .of_still ⟨rfl, rfl, rfl⟩
  | some r =>
    obtain ⟨c, found⟩ := r
    have ht : c.handler.Tagged ⟨scene, found⟩ := tagged_of_find? (hb ▸ hf) scene
    have hs : Still s (s.reportAll (found.mismatches.map fun m =>
      (Problem.mismatch m).within scene)) := ⟨rfl, rfl, rfl⟩
    simp only [Registry.isEmpty_of_find? hf, Bool.false_eq_true, if_false, hf]
    generalize s.reportAll _ = told at hs ⊢
    have hrun := course_handler hst (hs.registry.trans hb) ht
      (hr.imp_right fun h => by rw [Runs, hs.roster]; exact h)
    refine .still hs ?_
    split
    · next he =>
      rw [he] at hrun
      exact hrun
    · next he =>
      rw [he] at hrun
      exact hrun.trans_still ⟨rfl, rfl, rfl⟩

theorem course_perform (hb : s.registry = .builtin) (text : String) {scene : String}
    (hr : s.Runs scene) :
    Course hosted s (performEvents start events s text scene)
      (perform start s text scene).2 := by
  have hs : Still s (s.expand text scene).2 := .of_afterReading (.expand s text scene)
  refine .step (.performs hr) (.still hs ?_)
  cases hl : s.lineOf? text scene with
  | none =>
    obtain ⟨p, _, hp | ⟨err, hp⟩⟩ := perform_of_lineOf?_eq_none start hl
    · rw [hp]
      exact .refl _
    · rw [hp]
      exact .of_still ⟨rfl, rfl, rfl⟩
  | some line =>
    rw [perform_of_lineOf?_eq_some hl]
    exact course_line hst (hs.registry.trans hb) line
      (.inr (by rw [Runs, hs.roster]; exact hr))

end

def Serves (index : Nat) (name : String) (generation : Option Nat) (s : Show) : Prop :=
  ∃ c, s.scenes[index]? = some c ∧ c.name = name ∧ c.enabled ∧ some c.generation = generation

namespace Serves

variable {index : Nat} {name : String} {generation : Option Nat}

theorem runs (h : Serves index name generation s) : s.Runs name := by
  obtain ⟨c, hc, hn, he, _⟩ := h
  exact runs_iff.mpr ⟨index, c, hc, hn, he⟩

theorem evolves (h : Serves index name generation s) (he : s.Evolves t)
    (hg : t.generation? index = generation) : Serves index name generation t := by
  obtain ⟨c, hc, hn, hen, rfl⟩ := h
  obtain ⟨d, hd, hcd⟩ := he.scene index c hc
  rw [generation?, hd] at hg
  have heq := hcd.eq_of_generation (Option.some.inj hg)
  exact ⟨d, hd, hcd.name.trans hn, by rw [heq.1]; exact hen, hg⟩

theorem noteAt (h : Serves index name generation s) (position : Nat) (p : Performance) :
    Serves index name generation (s.noteAt index position p) := by
  obtain ⟨c, hc, hn, he, hg⟩ := h
  exact ⟨{ c with actions := c.actions.modify position (noteAction p) },
    by simp [Show.noteAt, modifyScene, hc], hn, he, hg⟩

end Serves

theorem course_beginWith (hst : Starts hosted start events) {index : Nat} {scene : String}
    {generation : Option Nat} (lines : List String) (hb : s.registry = .builtin)
    (hv : s.generation? index = generation → Serves index scene generation s) :
    Course hosted s (beginEvents start events index scene generation lines s)
      (beginWith start index scene generation lines s) := by
  induction lines generalizing s with
  | nil => exact .refl s
  | cons text rest ih =>
    unfold beginEvents beginWith
    -- A line before this one may have stopped the scene, and then its generation is another.
    by_cases hg : s.generation? index = generation
    · rw [if_neg (by simpa using hg), if_neg (by simpa using hg)]
      have hs : Still s (s.announce .start) := ⟨rfl, rfl, rfl⟩
      have hva : Serves index scene generation (s.announce .start) := hv hg
      have hp := course_perform hst (s := s.announce .start) hb text hva.runs
      have he : (s.announce .start).Evolves (perform start (s.announce .start) text scene).2 :=
        upheld_evolves.perform (s := s.announce .start) hst.evolves hb text scene
      exact .still hs (hp.trans (ih (he.registry.trans hb) (hva.evolves he)))
    · rw [if_pos (by simpa using hg), if_pos (by simpa using hg)]
      exact .refl s

theorem Rebuilt.serves {index : Nat} {c : Scene} (h : Rebuilt s index c t) :
    Serves index c.name (t.generation? index) t := by
  obtain ⟨d, hd, hn, _, _, _, he, _⟩ := h.scene
  exact ⟨d, hd, hn, he, by rw [generation?, hd, Option.map_some]⟩

theorem starts_startWithin (hosted : Prop) (room : Nat) :
    Starts hosted (fun s name => (startWithin room s name).2)
      (fun s name => startEvents room s name) := by
  refine ⟨fun s name hb => ?_, fun s name hb => upheld_evolves.startWithin room s name hb⟩
  -- The scripts may start scenes within a start: the induction is on the room that is left.
  induction room generalizing s name with
  | zero =>
    unfold startWithin startEvents
    cases s.scene? name <;> cases s.sceneIndex? name <;> exact .of_still ⟨rfl, rfl, rfl⟩
  | succ room ih =>
    unfold startWithin startEvents
    cases hc : s.scene? name with
    | none => cases s.sceneIndex? name <;> exact .of_still ⟨rfl, rfl, rfl⟩
    | some c =>
      obtain ⟨index, hi⟩ := exists_sceneIndex? hc
      have hc := getElem?_of_sceneIndex? hi hc
      have hr := Rebuilt.rebuild hc
      have hst : Starts hosted (fun s name => (startWithin room s name).2)
          (fun s name => startEvents room s name) :=
        ⟨ih, fun s name hb => upheld_evolves.startWithin room s name hb⟩
      rw [hi]
      refine .step (.starts hc) ?_
      dsimp only
      generalize s.rebuild index c = t at hr
      refine .still (t := { t with startDepth := t.startDepth + 1 }) ⟨rfl, rfl, rfl⟩ ?_
      refine Course.trans_still (t := beginWith _ _ _ _ _ _) ?_ ⟨rfl, rfl, rfl⟩
      exact course_beginWith hst _ (hr.registry.trans hb) fun _ => hr.serves

theorem starts_startScene (hosted : Prop) :
    Starts hosted (fun s name => (s.startScene name).2) startSceneEvents :=
  ⟨fun s name hb => (starts_startWithin hosted _).course s name hb,
    fun s name hb => upheld_evolves.startScene s name hb⟩

theorem course_performDue {index : Nat} {scene : String} {generation : Option Nat}
    (positions : List Nat) (hb : s.registry = .builtin)
    (hv : Serves index scene generation s) :
    Course hosted s (dueEvents index scene generation positions s)
      (performDue index scene generation positions s) := by
  induction positions generalizing s with
  | nil => exact .refl s
  | cons position rest ih =>
    unfold performDue dueEvents
    cases s.scenes[index]?.bind (dueAction? · position) with
    | none => exact ih hb hv
    | some due =>
      obtain ⟨kind, text⟩ := due
      have hva : Serves index scene generation (s.announce kind) := hv
      have hp : Course hosted (s.announce kind) ((s.announce kind).actEvents text scene)
          ((s.announce kind).act text scene).2 :=
        course_perform (s := s.announce kind) (starts_startScene hosted) hb text hva.runs
      have he := upheld_evolves.act (s.announce kind) text scene hb
      refine .still (t := s.announce kind) ⟨rfl, rfl, rfl⟩ ?_
      dsimp only
      generalize (s.announce kind).act text scene = r at hp he
      obtain ⟨p, t⟩ := r
      by_cases hg : t.generation? index = generation
      · rw [if_neg (by simpa using hg), if_neg (by simpa using hg)]
        exact hp.trans (.still (.noteAt t index position p)
          (ih (he.registry.trans hb) ((hva.evolves he hg).noteAt position p)))
      · rw [if_pos (by simpa using hg), if_pos (by simpa using hg), List.append_nil]
        exact hp

theorem course_visit (hb : s.registry = .builtin) (input : Input) (index : Nat) :
    Course hosted s (s.visitEvents input index) (s.visit input index).1 := by
  unfold visitEvents
  cases hc : s.scenes[index]? with
  | none => simpa [visit, hc] using Course.refl s
  | some c =>
    cases he : c.enabled with
    | false => simpa [visit_of_not_enabled hc he, he] using Course.refl s
    | true =>
      rw [visit_of_enabled hc he rfl]
      have hr := AfterReading.updateTriggers c.name c.triggers input s
      simp only [he, Bool.not_true, Bool.false_eq_true, if_false]
      generalize updateTriggers c.name c.triggers input s = r at hr
      obtain ⟨triggers, rest, t⟩ := r
      dsimp only at hr ⊢
      have hg : t.generation? index = some c.generation := by simp [generation?, hr.scenes, hc]
      have hm : Still t (t.modifyScene index fun c => { c with triggers := triggers }) :=
        .modifyScene t index fun _ => ⟨rfl, rfl⟩
      have hv : Serves index c.name (t.generation? index)
          (t.modifyScene index fun c => { c with triggers := triggers }) :=
        ⟨{ c with triggers := triggers }, by simp [modifyScene, hr.scenes, hc], rfl, he, hg.symm⟩
      refine .still (.of_afterReading hr) (.still hm (Course.trans_still ?_
        (.modifyScene _ index (f := Scene.clearFired) fun _ => ⟨rfl, rfl⟩)))
      exact course_performDue _ (hm.registry.trans (hr.registry.trans hb)) hv

theorem course_frame (hb : s.registry = .builtin) (clock : FrameClock) (input : Input) :
    Course hosted s (s.frameEvents clock input) (s.frame clock input).1 := by
  rw [frame_eq_turn, frameEvents]
  generalize s.scenes.length = n
  induction n with
  | zero => exact .of_still (.opened s clock input)
  | succ n ih =>
    rw [List.range_succ, List.flatMap_append, List.flatMap_singleton]
    exact ih.trans (course_visit (ih.registry.trans hb) _ n)

end Show

/-- The host leaves the stage and the scenes to the scripts. Lines of its own are `hosted`. -/
def Call.Drives (hosted : Prop) : Call → Prop
  | install _ | send _ | setImageSize .. => False
  | command .. => hosted
  | _ => True

namespace Show

theorem course_run {c : Call} (hc : c.Drives hosted) (hb : s.registry = .builtin) :
    Course hosted s (c.events s) (c.run s) := by
  have hst := starts_startScene hosted
  cases c with
  | install | send | setImageSize => exact hc.elim
  | begin clock => exact .still (t := s.setClock clock) ⟨rfl, rfl, rfl⟩ (hst.course _ topLevel hb)
  | startScene name => exact hst.course s name hb
  | stopScene name => exact course_stopScene s name
  | command line scene => exact course_line hst hb line (.inl hc)
  | frame clock input => exact course_frame hb clock input
  | readDuration text => exact .of_still (.of_afterReading (.readDuration s text))
  | resolveTag kind scene tag => exact .of_still (.of_afterReading (.resolveTag s kind scene tag))
  | assign | report | takeDiagnostics | requestExit => exact .of_still ⟨rfl, rfl, rfl⟩

/-- What is told of some calls leads from the show before them to the show after them. -/
theorem course_calls {calls : List Call} (hc : ∀ c ∈ calls, c.Drives hosted)
    (hb : s.registry = .builtin) :
    Course hosted s (s.course calls) (calls.foldl Call.run s) := by
  unfold Show.course
  induction calls generalizing s with
  | nil => exact .refl s
  | cons c calls ih =>
    have hrun := course_run (hc c List.mem_cons_self) hb
    exact hrun.trans (ih (fun d hd => hc d (List.mem_cons_of_mem _ hd)) (hrun.registry.trans hb))

end Show
end Showrunner
