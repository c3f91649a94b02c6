import Showrunner.Proofs.Show.Rules
import Showrunner.Proofs.Show.Visits

/-!
What a scene is made of when it has been started. Main statement: `start_builds_scene`.
-/

namespace Showrunner

namespace Scene.Group

/-- The group has actions that do not wait for `begin` alone. -/
def waits (g : Group) : Bool := !g.actions.isEmpty && !g.isStartOnly

def awaited (g : Group) : List Trigger.Declaration :=
  g.declarations.filter fun d => d.kind != .start

end Scene.Group

/-- A group of actions that wait, with the triggers that could be built for it, and the number of
triggers that were built before. -/
structure Gate where
  group : Scene.Group
  first : Nat
  built : List Trigger

namespace Gate

def positions (g : Gate) : List Nat := List.range' g.first g.built.length

def bound (g : Gate) : List Action :=
  if g.built.isEmpty then [] else g.group.actions.map (Action.ofText · g.positions)

end Gate

namespace Show

def gatesFrom (scene : String) : Nat → List Scene.Group → Show → List Gate
  | _, [], _ => []
  | first, g :: gs, s =>
    let (ts, s) := buildTriggers scene g.awaited s
    ⟨g, first, ts⟩ :: gatesFrom scene (first + ts.length) gs s

def gates (s : Show) (c : Scene) : List Gate :=
  gatesFrom c.name 0 ((Scene.groups c.content).filter (·.waits)) s

/-- The shows differ in their scenes and diagnostics at most. -/
def Alike (s t : Show) : Prop :=
  ∃ scenes diagnostics, t = { s with scenes := scenes, diagnostics := diagnostics }

/-- The results are the same, and the shows are alike. -/
def Agree {α : Type} (x y : α × Show) : Prop := y.1 = x.1 ∧ Alike x.2 y.2

variable {s t : Show}

theorem Agree.ofCondition {x y : Option Trigger.Condition × Show} (h : Agree x y)
    (scene : String) :
    Agree (x.1.map (Trigger.ofCondition · scene x.2.clock.elapsed), x.2)
      (y.1.map (Trigger.ofCondition · scene y.2.clock.elapsed), y.2) := by
  obtain ⟨he, scenes, diagnostics, hs⟩ := h
  exact ⟨by rw [he, hs], scenes, diagnostics, hs⟩

namespace Alike

theorem expand (h : Alike s t) (text scene : String) :
    Agree (s.expand text scene) (t.expand text scene) := by
  obtain ⟨scenes, diagnostics, rfl⟩ := h
  exact ⟨rfl, scenes, _, rfl⟩

theorem report (h : Alike s t) (d : Diagnostic) : Alike (s.report d) (t.report d) := by
  obtain ⟨scenes, diagnostics, rfl⟩ := h
  exact ⟨scenes, _, rfl⟩

theorem readDuration (h : Alike s t) (text : Option String) :
    Agree (s.readDuration text) (t.readDuration text) := by
  obtain ⟨scenes, diagnostics, rfl⟩ := h
  cases text with
  | none => exact ⟨rfl, scenes, diagnostics, rfl⟩
  | some text =>
    exact ⟨by simp only [Show.readDuration],
      scenes, diagnostics, by simp only [Show.readDuration]⟩

theorem resolveArgument (h : Alike s t) (text scene : String) :
    Agree (s.resolveArgument text scene) (t.resolveArgument text scene) := by
  obtain ⟨he, ha⟩ := h.expand text scene
  have hv : (t.expand text scene).2.evaluator = (s.expand text scene).2.evaluator := by
    obtain ⟨scenes, diagnostics, hs⟩ := ha
    rw [hs]
  unfold Show.resolveArgument
  dsimp only
  rw [he, hv]
  split
  · exact ⟨rfl, ha⟩
  · split
    · exact ⟨rfl, ha⟩
    · exact ⟨rfl, ha.report _⟩

theorem condition (h : Alike s t) (kind : Trigger.Kind) (argument scene : String) :
    Agree (s.condition kind argument scene) (t.condition kind argument scene) := by
  have hd := h.readDuration (some argument)
  unfold Show.condition
  -- what the duration is does not matter, and is not looked into
  generalize s.readDuration (some argument) = read at hd
  generalize t.readDuration (some argument) = read' at hd
  obtain ⟨x, u⟩ := read
  obtain ⟨x', u'⟩ := read'
  obtain ⟨rfl, hd⟩ : x' = x ∧ Alike u u' := hd
  split
  · exact ⟨rfl, hd⟩
  · exact ⟨rfl, hd⟩
  · exact ⟨rfl, h⟩
  · split
    · exact ⟨rfl, h⟩
    · exact ⟨rfl, h.report _⟩
  · split
    · exact ⟨rfl, h⟩
    · exact ⟨rfl, h.report _⟩
  all_goals exact ⟨rfl, h⟩

theorem buildTrigger (h : Alike s t) (d : Trigger.Declaration) (scene : String) :
    Agree (s.buildTrigger d scene) (t.buildTrigger d scene) := by
  obtain ⟨kind, argument⟩ := d
  have hc : ∀ {u v : Show}, Alike u v → ∀ argument,
      Agree (u.condition kind argument scene) (v.condition kind argument scene) :=
    fun h argument => h.condition kind argument scene
  have hr := h.resolveArgument (argument.getD "") scene
  unfold Show.buildTrigger
  cases kind with
  | start | onClick | whenTrue | whileTrue =>
    dsimp only
    exact (hc h _).ofCondition scene
  | _ =>
    dsimp only
    generalize s.resolveArgument (argument.getD "") scene = resolved at hr
    generalize t.resolveArgument (argument.getD "") scene = resolved' at hr
    obtain ⟨resolved, u⟩ := resolved
    obtain ⟨resolved', u'⟩ := resolved'
    obtain ⟨rfl, hu⟩ : resolved' = resolved ∧ Alike u u' := hr
    cases resolved' with
    | none => exact ⟨rfl, hu⟩
    | some argument =>
      dsimp only
      exact (hc hu argument).ofCondition scene

theorem buildTriggers (h : Alike s t) (scene : String) (ds : List Trigger.Declaration) :
    Agree (Show.buildTriggers scene ds s) (Show.buildTriggers scene ds t) := by
  induction ds generalizing s t with
  | nil => exact ⟨rfl, h⟩
  | cons d ds ih =>
    obtain ⟨hb, ha⟩ := h.buildTrigger d scene
    obtain ⟨hbs, has⟩ := ih ha
    exact ⟨by simp only [Show.buildTriggers, hb, hbs], has⟩

theorem gatesFrom (h : Alike s t) (scene : String) (first : Nat) (groups : List Scene.Group) :
    Show.gatesFrom scene first groups t = Show.gatesFrom scene first groups s := by
  induction groups generalizing s t first with
  | nil => rfl
  | cons g gs ih =>
    obtain ⟨hb, ha⟩ := h.buildTriggers scene g.awaited
    simp only [Show.gatesFrom, hb, ih ha]

end Alike

def gated (c : Scene) (gs : List Gate) : Scene :=
  { c with
    triggers := c.triggers ++ gs.flatMap (·.built)
    actions := c.actions ++ gs.flatMap (·.bound) }

def fresh (s : Show) (c : Scene) : Scene :=
  gated { c.reset with enabled := true, fromFolder := "" } (s.gates c)

section

variable {index first : Nat} {c d : Scene} {scene : String} {groups : List Scene.Group}

theorem gated_gated (c : Scene) (gs hs : List Gate) :
    gated (gated c gs) hs = gated c (gs ++ hs) := by
  simp [gated]

theorem gate_eq_gated (c : Scene) (g : Scene.Group) (ts : List Trigger) :
    gate c ts g.actions = gated c [⟨g, c.triggers.length, ts⟩] := by
  unfold gate gated
  cases ts with
  | nil => simp [Gate.bound]
  | cons t ts => simp [Gate.bound, Gate.positions]

theorem AfterReading.setScenes (h : AfterReading s t) (scenes : List Scene) :
    AfterReading { s with scenes := scenes } { t with scenes := scenes } := by
  obtain ⟨dice, last, notes, rfl⟩ := h
  exact ⟨dice, last, notes, rfl⟩

theorem modifyScene_eq_set (h : s.scenes[index]? = some d) (f : Scene → Scene) :
    s.modifyScene index f = { s with scenes := s.scenes.set index (f d) } := by
  obtain ⟨hl, rfl⟩ := List.getElem?_eq_some_iff.mp h
  unfold modifyScene
  rw [List.modify_eq_set_getElem?, h]
  rfl

theorem set_eq_self (h : s.scenes[index]? = some d) : s.scenes.set index d = s.scenes := by
  obtain ⟨hl, rfl⟩ := List.getElem?_eq_some_iff.mp h
  exact List.set_getElem_self hl

theorem buildGroup_of_waits (scene : String) {g : Scene.Group} (hw : g.waits)
    (hd : t.scenes[index]? = some d) :
    AfterReading
      { t with scenes := t.scenes.set index (gated d
        [⟨g, d.triggers.length, (buildTriggers scene g.awaited t).1⟩]) }
      (buildGroup index scene t g) ∧
    Alike (buildTriggers scene g.awaited t).2 (buildGroup index scene t g) := by
  have hr := AfterReading.buildTriggers scene g.awaited t
  rw [Scene.Group.waits, ← Bool.not_or, Bool.not_eq_true'] at hw
  rw [buildGroup, if_neg (by simp [hw])]
  cases hg : g.declarations.isEmpty with
  | true =>
    -- actions without a trigger line make a gate without triggers, which adds nothing
    have ha : g.awaited = [] := by simp [Scene.Group.awaited, List.isEmpty_iff.mp hg]
    have hn : gated d [⟨g, d.triggers.length, []⟩] = d := by simp [gated, Gate.bound]
    rw [ha, buildTriggers, hn, set_eq_self hd]
    exact ⟨.report t _, t.scenes, _, rfl⟩
  | false =>
    rw [if_neg (by simp), ← Scene.Group.awaited]
    dsimp only
    generalize buildTriggers scene g.awaited t = built at hr ⊢
    have hv : built.2.scenes[index]? = some d := by rw [hr.scenes, hd]
    rw [modifyScene_eq_set hv, gate_eq_gated, hr.scenes]
    exact ⟨hr.setScenes _, _, _, rfl⟩

theorem foldl_buildGroup (scene : String) (groups : List Scene.Group)
    (hd : t.scenes[index]? = some d) :
    AfterReading
      { t with scenes := t.scenes.set index (gated d
        (gatesFrom scene d.triggers.length (groups.filter (·.waits)) t)) }
      (groups.foldl (buildGroup index scene) t) := by
  induction groups generalizing t d with
  | nil =>
    have hg : gated d [] = d := by simp [gated]
    rw [List.filter_nil, gatesFrom, hg, set_eq_self hd]
    exact .refl t
  | cons g gs ih =>
    rw [List.foldl_cons]
    cases hw : g.waits with
    | false =>
      have hb : buildGroup index scene t g = t := by
        rw [Scene.Group.waits, ← Bool.not_or, Bool.not_eq_false'] at hw
        rw [buildGroup, if_pos hw]
      rw [List.filter_cons_of_neg (by simp [hw]), hb]
      exact ih hd
    | true =>
      obtain ⟨hr, ha⟩ := buildGroup_of_waits scene hw hd
      rw [List.filter_cons_of_pos hw, gatesFrom]
      generalize buildGroup index scene t g = u at hr ha ⊢
      generalize buildTriggers scene g.awaited t = built at hr ha ⊢
      have hl : index < t.scenes.length := (List.getElem?_eq_some_iff.mp hd).1
      have hu : u.scenes[index]? = some (gated d [⟨g, d.triggers.length, built.1⟩]) := by
        rw [hr.scenes, List.getElem?_set_self hl]
      -- the gates of the other groups do not depend on the scene that has this one by now
      have hrest := ih hu
      rw [ha.gatesFrom, hr.scenes, List.set_set, gated_gated] at hrest
      exact (hr.setScenes _).trans (by simpa [gated] using hrest)

theorem rebuild_afterReading (hc : s.scenes[index]? = some c) :
    AfterReading { s with scenes := s.scenes.set index (s.fresh c) } (s.rebuild index c) := by
  let cleared : Scene := { c.reset with enabled := true, fromFolder := "" }
  have hl : index < s.scenes.length := (List.getElem?_eq_some_iff.mp hc).1
  have hm : s.modifyScene index (fun c => { c.reset with enabled := true, fromFolder := "" }) =
      { s with scenes := s.scenes.set index cleared } := modifyScene_eq_set hc _
  have ha : Alike s { s with scenes := s.scenes.set index cleared } := ⟨_, s.diagnostics, rfl⟩
  have hf := foldl_buildGroup (t := { s with scenes := s.scenes.set index cleared }) c.name
    (Scene.groups c.content) (List.getElem?_set_self hl)
  rw [ha.gatesFrom, List.set_set] at hf
  unfold rebuild
  rw [hm]
  exact hf

end

/-- A begin action that is performed, with the shows before and after it. -/
structure Begun where
  text : String
  before : Show
  after : Show

/-- Performing begin actions in order leads from one show to another. It goes on as long as the
scene keeps its generation. -/
inductive Begins (index : Nat) (scene : String) (generation : Option Nat) :
    Show → List Begun → Show → Prop
  | done (s : Show) : Begins index scene generation s [] s
  | last {s : Show} {b : Begun} (hb : b.before = s.announce .start)
    (ha : (b.before.act b.text scene).2 = b.after) (hg : b.after.generation? index ≠ generation) :
    Begins index scene generation s [b] b.after
  | next {s t : Show} {b : Begun} {bs : List Begun} (hb : b.before = s.announce .start)
    (ha : (b.before.act b.text scene).2 = b.after) (hg : b.after.generation? index = generation)
    (h : Begins index scene generation b.after bs t) : Begins index scene generation s (b :: bs) t

variable {index n : Nat} {scene : String} {generation : Option Nat} {lines : List String}
  {es : List Event} {begun : List Begun} {c : Scene}

theorem Executes.begins (h : Executes n s (.begins index scene generation lines) es t)
    (hg : s.generation? index = generation) :
    ∃ begun, Begins index scene generation s begun t ∧ begun.map (·.text) <+: lines ∧
      (begun.map (·.text) = lines ∨
        ∃ b, begun.getLast? = some b ∧ b.after.generation? index ≠ generation) := by
  induction lines generalizing n s es with
  | nil =>
    cases h
    exact ⟨[], .done _, List.nil_prefix, .inl rfl⟩
  | cons text rest ih =>
    cases h with
    | beginsCut hg' => exact absurd hg hg'
    | beginsNext _ h k =>
      obtain ⟨_, _, ha⟩ := executes_act (s.announce .start) text scene
      obtain ⟨-, -, rfl⟩ := ha.unique h
      let b : Begun := ⟨text, s.announce .start, ((s.announce .start).act text scene).2⟩
      by_cases hgb : b.after.generation? index = generation
      · obtain ⟨bs, hbs, hpre, hwhole⟩ := ih k hgb
        refine ⟨b :: bs, .next rfl rfl hgb hbs, (List.prefix_cons_inj text).mpr hpre, ?_⟩
        rcases hwhole with hw | ⟨q, hq, hqg⟩
        · exact .inl (by rw [List.map_cons, hw])
        · exact .inr ⟨q, by rw [List.getLast?_cons, hq]; rfl, hqg⟩
      · -- the action has changed the generation, so nothing is done about the rest
        have ht : t = b.after := by
          cases k with
          | beginsDone | beginsCut => rfl
          | beginsNext hg' => exact absurd hg' hgb
        rw [ht]
        exact ⟨[b], .last rfl rfl hgb, (List.prefix_cons_inj text).mpr List.nil_prefix,
          .inr ⟨b, rfl, hgb⟩⟩

theorem Begins.kept (h : Begins index scene generation s begun t)
    (hg : s.generation? index = generation) :
    ∀ u ∈ t :: begun.flatMap (fun b => [b.before, b.after]),
      u.generation? index = generation → u.handled? index = s.handled? index := by
  induction h with
  | done s =>
    intro u hu _
    rw [List.mem_singleton.mp hu]
  | @last s b hb _ hga =>
    -- the generation has changed in the end, so only the show before the action counts
    intro u hu hgu
    have hu : u = b.after ∨ u = b.before := by
      simp only [List.flatMap_cons, List.flatMap_nil, List.append_nil, List.mem_cons,
        List.not_mem_nil] at hu
      tauto
    rcases hu with rfl | rfl
    · exact absurd hgu hga
    · rw [hb]
      rfl
  | @next s t b bs hb ha hga h ih =>
    obtain ⟨_, _, he⟩ := executes_act b.before b.text scene
    rw [ha] at he
    have hbefore : b.before.handled? index = s.handled? index := by
      rw [hb]
      rfl
    have hafter : b.after.handled? index = s.handled? index := by
      rw [he.evolves.handled_eq (hga.trans (hg.symm.trans (by rw [hb]; rfl))), hbefore]
    intro u hu hgu
    have hu : (u = b.before ∨ u = b.after) ∨
        u ∈ t :: bs.flatMap (fun b => [b.before, b.after]) := by
      simp only [List.flatMap_cons, List.mem_cons, List.mem_append, List.not_mem_nil] at hu ⊢
      tauto
    rcases hu with (rfl | rfl) | hu
    · exact hbefore
    · exact hafter
    · rw [ih hga u hu hgu, hafter]

theorem Begins.head (h : Begins index scene generation s begun t) :
    ∀ b, begun.head? = some b → b.before = s.announce .start := by
  intro b hb
  cases h with
  | done => cases hb
  | last hs | next hs =>
    cases hb
    exact hs

end Show
end Showrunner
