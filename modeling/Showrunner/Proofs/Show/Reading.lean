import Showrunner.Show.Frame

namespace Showrunner.Show

/-- What reading the texts of a script can change: the dice, the duration that is remembered, and
the diagnostics, which grow. -/
def AfterReading (s t : Show) : Prop :=
  ∃ (dice : Dice) (last : Option Float) (notes : List Diagnostic), t =
    { s with dice := dice, lastDuration := last, diagnostics := s.diagnostics ++ notes }

namespace AfterReading

variable {s t u : Show}

theorem refl (s : Show) : AfterReading s s := ⟨s.dice, s.lastDuration, [], by simp⟩

theorem trans (h : AfterReading s t) (k : AfterReading t u) : AfterReading s u := by
  obtain ⟨dice, last, notes, rfl⟩ := h
  obtain ⟨dice', last', notes', rfl⟩ := k
  have hn : s.diagnostics ++ notes ++ notes' = s.diagnostics ++ (notes ++ notes') :=
    Array.toList_inj.mp (by simp)
  exact ⟨dice', last', notes ++ notes', by rw [← hn]⟩

theorem report (s : Show) (d : Diagnostic) : AfterReading s (s.report d) :=
  ⟨s.dice, s.lastDuration, [d], by simp [Show.report]⟩

theorem resolveTag (s : Show) (kind : TagKind) (scene tag : String) :
    AfterReading s (s.resolveTag kind scene tag).2 := by
  unfold Show.resolveTag
  split
  · exact refl s
  · exact report s _

theorem readDuration (s : Show) (text : Option String) :
    AfterReading s (s.readDuration text).2 := by
  cases text with
  | none => exact refl s
  | some text =>
    exact ⟨s.dice, (Duration.read s.lastDuration text).2, [], by simp [Show.readDuration]⟩

theorem expand (s : Show) (text scene : String) : AfterReading s (s.expand text scene).2 :=
  ⟨_, s.lastDuration, _, rfl⟩

theorem resolveArgument (s : Show) (text scene : String) :
    AfterReading s (s.resolveArgument text scene).2 := by
  have h := expand s text scene
  unfold Show.resolveArgument
  dsimp only
  split
  · exact h
  · split
    · exact h
    · exact h.trans (report _ _)

theorem condition (s : Show) (kind : Trigger.Kind) (argument scene : String) :
    AfterReading s (s.condition kind argument scene).2 := by
  have h := readDuration s (some argument)
  unfold Show.condition
  -- what the duration is does not matter, and is not looked into
  generalize s.readDuration (some argument) = read at h
  split
  · exact h
  · exact h
  · exact refl s
  · split
    · exact refl s
    · exact report s _
  · split
    · exact refl s
    · exact report s _
  all_goals exact refl s

theorem buildTrigger (s : Show) (d : Trigger.Declaration) (scene : String) :
    AfterReading s (s.buildTrigger d scene).2 := by
  unfold Show.buildTrigger
  dsimp only
  split
  · exact condition s _ _ scene
  · exact condition s _ _ scene
  · exact condition s _ _ scene
  · exact condition s _ _ scene
  · have h := resolveArgument s (d.argument.getD "") scene
    split
    · next argument t hr =>
      rw [hr] at h
      exact h.trans (condition t _ argument scene)
    · next t hr =>
      rw [hr] at h
      exact h

theorem buildTriggers (scene : String) (ds : List Trigger.Declaration) (s : Show) :
    AfterReading s (buildTriggers scene ds s).2 := by
  induction ds generalizing s with
  | nil => exact refl s
  | cons d ds ih => exact (buildTrigger s d scene).trans (ih _)

theorem probe (s : Show) (kind : Trigger.Kind) (expression scene : String) :
    AfterReading s (s.probe kind expression scene).2 := by
  have h := expand s expression scene
  unfold Show.probe
  dsimp only
  split
  · exact h
  · split
    · exact h
    · exact h.trans (report _ _)

theorem updateTrigger (s : Show) (scene : String) (input : Input) (t : Trigger) :
    AfterReading s (s.updateTrigger scene input t).2.2 := by
  unfold Show.updateTrigger
  split
  · next expression _ => exact probe s t.kind expression scene
  · exact refl s

theorem updateTriggers (scene : String) (ts : List Trigger) (input : Input) (s : Show) :
    AfterReading s (updateTriggers scene ts input s).2.2 := by
  induction ts generalizing input s with
  | nil => exact refl s
  | cons t ts ih => exact (updateTrigger s scene input t).trans (ih _ _)

theorem scenes (h : AfterReading s t) : t.scenes = s.scenes := by
  obtain ⟨_, _, _, rfl⟩ := h
  rfl

theorem startDepth (h : AfterReading s t) : t.startDepth = s.startDepth := by
  obtain ⟨_, _, _, rfl⟩ := h
  rfl

theorem registry (h : AfterReading s t) : t.registry = s.registry := by
  obtain ⟨_, _, _, rfl⟩ := h
  rfl

theorem stage (h : AfterReading s t) : t.stage = s.stage := by
  obtain ⟨_, _, _, rfl⟩ := h
  rfl

theorem vars (h : AfterReading s t) : t.vars = s.vars := by
  obtain ⟨_, _, _, rfl⟩ := h
  rfl

end AfterReading

theorem ofCondition_of_buildTrigger {s : Show} {d : Trigger.Declaration} {scene : String}
    {t : Trigger} (h : (s.buildTrigger d scene).1 = some t) :
    ∃ condition now, t = .ofCondition condition scene now := by
  obtain ⟨condition, _, rfl⟩ := Option.map_eq_some_iff.mp h
  exact ⟨condition, _, rfl⟩

theorem ofCondition_of_buildTriggers {scene : String} {ds : List Trigger.Declaration} {s : Show}
    {t : Trigger} (h : t ∈ (buildTriggers scene ds s).1) :
    ∃ condition now, t = .ofCondition condition scene now := by
  induction ds generalizing s with
  | nil => cases h
  | cons d ds ih =>
    rcases List.mem_append.mp h with h | h
    · exact ofCondition_of_buildTrigger (Option.mem_toList.mp h)
    · exact ih h

end Showrunner.Show
