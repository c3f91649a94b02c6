import Showrunner.Proofs.Show.Course
import Showrunner.Proofs.Show.Visits

namespace Showrunner

/-- The place of an action: the scene at a position, one generation of it, and the position of the
action in it. -/
structure Slot where
  index : Nat
  generation : Nat
  position : Nat
deriving DecidableEq, Repr

namespace Show

/-- An action that is performed in a frame: its place, and the shows before and after it. -/
structure Deed extends Performed where
  index : Nat
  generation : Nat

def Deed.slot (d : Deed) : Slot := ⟨d.index, d.generation, d.position⟩

def dueDeeds (index : Nat) (scene : String) (generation : Nat) : List Nat → Show → List Deed
  | [], _ => []
  | position :: rest, s =>
    match s.scenes[index]?.bind (dueAction? · position) with
    | none => dueDeeds index scene generation rest s
    | some (kind, text) =>
      let (p, t) := (s.announce kind).act text scene
      ⟨⟨position, kind, text, s.announce kind, p, t⟩, index, generation⟩ ::
        if t.generation? index != some generation then []
        else dueDeeds index scene generation rest (t.noteAt index position p)

def visitDeeds (s : Show) (input : Input) (index : Nat) : List Deed :=
  match s.scenes[index]? with
  | none => []
  | some scene =>
    if !scene.enabled then []
    else
      let (triggers, _, t) := updateTriggers scene.name scene.triggers input s
      dueDeeds index scene.name scene.generation (List.range scene.actions.length)
        (t.modifyScene index fun scene => { scene with triggers := triggers })

def frameDeeds (s : Show) (clock : FrameClock) (input : Input) : List Deed :=
  (List.range s.scenes.length).flatMap fun index =>
    (s.turn clock input index).1.visitDeeds (s.turn clock input index).2 index

end Show

/-- The actions that a call performs. Only frames perform actions: what is performed at the start of
a scene are lines that no trigger gates. -/
def Call.deeds (s : Show) : Call → List Show.Deed
  | frame clock input => s.frameDeeds clock input
  | _ => []

def Call.KeepsScenes : Call → Prop
  | install _ => False
  | _ => True

namespace Show

def deeds : Show → List Call → List Deed
  | _, [] => []
  | s, c :: calls => c.deeds s ++ deeds (c.run s) calls

variable {s t u : Show} {d : Deed} {ds es : List Deed}

/-- Scenes stay in their places. Each goes on as it was, or is in a later generation in which
nothing is complete. -/
structure Quiet (s t : Show) : Prop where
  length : t.scenes.length = s.scenes.length
  scene : ∀ (i : Nat) (c : Scene), s.scenes[i]? = some c → ∃ d, t.scenes[i]? = some d ∧
    (d.generation = c.generation ∧ d.actions = c.actions ∨
      c.generation < d.generation ∧ ∀ a ∈ d.actions, a.complete = false)

/-- An action that is not complete is performed. What became of it is noted unless the scene has
begun another generation. -/
structure Does (s : Show) (d : Deed) (t : Show) : Prop where
  scene : ∃ c, s.scenes[d.index]? = some c ∧ c.generation = d.generation ∧
    (∃ a, c.actions[d.position]? = some a ∧ a.complete = false ∧ a.text = d.text) ∧
    d.before.act d.text c.name = (d.outcome, d.after)
  before : d.before = s.announce d.kind
  registry : s.registry = .builtin
  noted : t = if d.after.generation? d.index = some d.generation then
    d.after.noteAt d.index d.position d.outcome else d.after

/-- Actions are performed on the way from one show to another, with nothing but quiet changes
between them. -/
inductive Chronicle : Show → List Deed → Show → Prop
  | refl (s : Show) : Chronicle s [] s
  | quiet {s t u : Show} {ds : List Deed} (h : Quiet s t) (k : Chronicle t ds u) :
    Chronicle s ds u
  | deed {s t u : Show} {d : Deed} {ds : List Deed} (h : Does s d t) (k : Chronicle t ds u) :
    Chronicle s (d :: ds) u

namespace Quiet

theorem of_scenes (h : t.scenes = s.scenes) : Quiet s t :=
  ⟨by rw [h], fun _ c hc => ⟨c, h ▸ hc, .inl ⟨rfl, rfl⟩⟩⟩

theorem of_evolves (h : s.Evolves t) : Quiet s t := by
  refine ⟨h.length, fun i c hc => ?_⟩
  obtain ⟨d, hd, hcd⟩ := h.scene i c hc
  refine ⟨d, hd, hcd.run.imp (fun hr => ⟨hr.1, hr.2.2.2⟩) fun hr => ⟨hr.1, fun a ha => ?_⟩⟩
  exact (hr.2.actions a ha).2

theorem of_modifyScene (s : Show) (index : Nat) {f : Scene → Scene}
    (h : ∀ c, (f c).generation = c.generation ∧ (f c).actions = c.actions) :
    Quiet s (s.modifyScene index f) := by
  refine ⟨by simp [modifyScene], fun i c hc => ?_⟩
  by_cases hi : index = i
  · exact ⟨f c, by simp [modifyScene, hi, hc], .inl (h c)⟩
  · exact ⟨c, by simp [modifyScene, hi, hc], .inl ⟨rfl, rfl⟩⟩

end Quiet

namespace Chronicle

theorem of_quiet (h : Quiet s t) : Chronicle s [] t := .quiet h (.refl t)

theorem trans (h : Chronicle s ds t) (k : Chronicle t es u) : Chronicle s (ds ++ es) u := by
  induction h with
  | refl => exact k
  | quiet h _ ih => exact .quiet h (ih k)
  | deed h _ ih => exact .deed h (ih k)

theorem trans_quiet (h : Chronicle s ds t) (k : Quiet t u) : Chronicle s ds u := by
  simpa using h.trans (of_quiet k)

theorem split {before later : List Deed} (h : Chronicle s (before ++ d :: later) u) :
    ∃ s' t', Chronicle s before s' ∧ Does s' d t' ∧ Chronicle t' later u := by
  generalize hds : before ++ d :: later = all at h
  induction h generalizing before with
  | refl => simp at hds
  | quiet hq _ ih =>
    obtain ⟨s', t', hbefore, hd, hlater⟩ := ih hds
    exact ⟨s', t', .quiet hq hbefore, hd, hlater⟩
  | @deed s t u e ds he k ih =>
    cases before with
    | nil =>
      obtain ⟨rfl, rfl⟩ := List.cons.inj hds
      exact ⟨s, t, .refl s, he, k⟩
    | cons b before =>
      obtain ⟨rfl, htail⟩ := List.cons.inj hds
      obtain ⟨s', t', hbefore, hd, hlater⟩ := ih htail
      exact ⟨s', t', .deed he hbefore, hd, hlater⟩

end Chronicle

theorem action_of_dueAction? {c : Scene} {position : Nat} {kind : Trigger.Kind} {text : String}
    (h : dueAction? c position = some (kind, text)) :
    ∃ a, c.actions[position]? = some a ∧ a.complete = false ∧ a.text = text := by
  unfold dueAction? at h
  cases ha : c.actions[position]? with
  | none => simp [ha] at h
  | some a =>
    cases hc : a.complete with
    | true => simp [ha, hc] at h
    | false =>
      cases hf : c.firstFired a with
      | none => simp [ha, hc, hf] at h
      | some fired =>
        simp [ha, hc, hf] at h
        exact ⟨a, rfl, hc, h.2⟩

theorem chronicle_performDue {index generation : Nat} {scene : String} (positions : List Nat)
    (hb : s.registry = .builtin) (hv : Serves index scene (some generation) s) :
    Chronicle s (dueDeeds index scene generation positions s)
      (performDue index scene (some generation) positions s) := by
  induction positions generalizing s with
  | nil => exact .refl s
  | cons position rest ih =>
    unfold performDue dueDeeds
    cases hdue : s.scenes[index]?.bind (dueAction? · position) with
    | none => exact ih hb hv
    | some due =>
      obtain ⟨kind, text⟩ := due
      have he := upheld_evolves.act (s.announce kind) text scene hb
      have hva : Serves index scene (some generation) (s.announce kind) := hv
      obtain ⟨c, hc, rfl, -, hgen⟩ := hv
      rw [hc] at hdue
      dsimp only
      rcases hact : (s.announce kind).act text c.name with ⟨p, t⟩
      rw [hact] at he
      let d : Deed := ⟨⟨position, kind, text, s.announce kind, p, t⟩, index, generation⟩
      have hd {t' : Show} (hn : t' = if t.generation? index = some generation then
          t.noteAt index position p else t) : Does s d t' :=
        ⟨⟨c, hc, Option.some.inj hgen, action_of_dueAction? hdue, hact⟩, rfl, hb, hn⟩
      by_cases hg : t.generation? index = some generation
      · rw [if_neg (by simpa using hg), if_neg (by simpa using hg)]
        exact .deed (hd (if_pos hg).symm)
          (ih (he.registry.trans hb) ((hva.evolves he hg).noteAt position p))
      · rw [if_pos (by simpa using hg), if_pos (by simpa using hg)]
        exact .deed (hd (if_neg hg).symm) (.refl t)

theorem chronicle_visit (hb : s.registry = .builtin) (input : Input) (index : Nat) :
    Chronicle s (s.visitDeeds input index) (s.visit input index).1 := by
  unfold visitDeeds
  cases hc : s.scenes[index]? with
  | none => simpa [visit, hc] using Chronicle.refl s
  | some c =>
    cases he : c.enabled with
    | false => simpa [visit_of_not_enabled hc he, he] using Chronicle.refl s
    | true =>
      rw [visit_of_enabled hc he rfl]
      have hr := AfterReading.updateTriggers c.name c.triggers input s
      simp only [he, Bool.not_true, Bool.false_eq_true, if_false]
      generalize updateTriggers c.name c.triggers input s = r at hr
      obtain ⟨triggers, rest, t⟩ := r
      dsimp only at hr ⊢
      have hg : t.generation? index = some c.generation := by simp [generation?, hr.scenes, hc]
      have hv : Serves index c.name (some c.generation)
          (t.modifyScene index fun c => { c with triggers := triggers }) :=
        ⟨{ c with triggers := triggers }, by simp [modifyScene, hr.scenes, hc], rfl, he, rfl⟩
      have hb' : (t.modifyScene index fun c => { c with triggers := triggers }).registry =
          .builtin := hr.registry.trans hb
      have hm : Quiet t (t.modifyScene index fun c => { c with triggers := triggers }) :=
        .of_modifyScene t index fun _ => ⟨rfl, rfl⟩
      rw [hg]
      refine .quiet (.of_scenes hr.scenes) (.quiet hm (Chronicle.trans_quiet ?_
        (.of_modifyScene _ index (f := Scene.clearFired) fun _ => ⟨rfl, rfl⟩)))
      exact chronicle_performDue _ hb' hv

theorem registry_turn (hb : s.registry = .builtin) (clock : FrameClock) (input : Input) (n : Nat) :
    (s.turn clock input n).1.registry = .builtin := by
  induction n with
  | zero =>
    obtain ⟨vars, hv⟩ := opened_eq s clock input
    rw [turn, hv]
    exact hb
  | succ n ih =>
    have hc : Course True (s.turn clock input n).1 _ (s.turn clock input (n + 1)).1 :=
      course_visit ih (s.turn clock input n).2 n
    exact hc.registry.trans ih

theorem chronicle_frame (hb : s.registry = .builtin) (clock : FrameClock) (input : Input) :
    Chronicle s (s.frameDeeds clock input) (s.frame clock input).1 := by
  rw [frame_eq_turn, frameDeeds]
  generalize s.scenes.length = n
  induction n with
  | zero =>
    obtain ⟨vars, hv⟩ := opened_eq s clock input
    exact .of_quiet (.of_scenes (by rw [turn, hv]))
  | succ n ih =>
    rw [List.range_succ, List.flatMap_append, List.flatMap_singleton]
    exact ih.trans (chronicle_visit (registry_turn hb clock input n) _ n)

theorem chronicle_run {c : Call} (hc : c.KeepsScenes) (hb : s.registry = .builtin) :
    Chronicle s (c.deeds s) (c.run s) ∧ (c.run s).registry = .builtin := by
  have hevolves {t : Show} (h : s.Evolves t) : Chronicle s [] t ∧ t.registry = .builtin :=
    ⟨.of_quiet (.of_evolves h), h.registry.trans hb⟩
  cases c with
  | install => exact hc.elim
  | begin clock =>
    have hs : s.Evolves (s.setClock clock) := .of_eq rfl rfl rfl
    exact hevolves (hs.trans (upheld_evolves.startScene _ _ hb))
  | startScene name => exact hevolves (upheld_evolves.startScene s name hb)
  | stopScene name => exact hevolves (.stopScene s name)
  | command line scene => exact hevolves (upheld_evolves.command s line scene hb)
  | frame clock input =>
    refine ⟨chronicle_frame hb clock input, ?_⟩
    have ht := registry_turn hb clock input s.scenes.length
    rwa [← frame_eq_turn] at ht
  | readDuration text => exact hevolves (AfterReading.readDuration s text).evolves
  | resolveTag kind scene tag => exact hevolves (AfterReading.resolveTag s kind scene tag).evolves
  | assign | send | setImageSize | report | takeDiagnostics | requestExit =>
    exact hevolves (.of_eq rfl rfl rfl)

/-- What some calls perform leads from the show before them to the show after them. -/
theorem chronicle_calls {calls : List Call} (hc : ∀ c ∈ calls, c.KeepsScenes)
    (hb : s.registry = .builtin) :
    Chronicle s (s.deeds calls) (calls.foldl Call.run s) ∧
      (calls.foldl Call.run s).registry = .builtin := by
  induction calls generalizing s with
  | nil => exact ⟨.refl s, hb⟩
  | cons c calls ih =>
    obtain ⟨hrun, hb'⟩ := chronicle_run (hc c List.mem_cons_self) hb
    obtain ⟨hrest, hlast⟩ := ih (fun d hd => hc d (List.mem_cons_of_mem _ hd)) hb'
    exact ⟨hrun.trans hrest, hlast⟩

end Show
end Showrunner
