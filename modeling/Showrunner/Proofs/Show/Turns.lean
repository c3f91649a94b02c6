import Showrunner.Show.Frame

namespace Showrunner.Show

/-- The show and the input of a frame before the first scene has its turn. -/
def opened (s : Show) (clock : FrameClock) (input : Input) : Show × Input :=
  let (s, input) := (s.setClock clock).publish input
  ({ s with frames := s.frames + 1 }, input)

/-- The show and the input of a frame after so many scenes had their turns. -/
def turn (s : Show) (clock : FrameClock) (input : Input) : Nat → Show × Input
  | 0 => s.opened clock input
  | index + 1 => (turn s clock input index).1.visit (turn s clock input index).2 index

variable (s : Show) (clock : FrameClock) (input : Input)

theorem publish_eq : ∃ vars, (s.publish input).1 = { s with vars := vars } := by
  refine ⟨(s.publish input).1.vars, ?_⟩
  obtain ⟨key, click, released, pointer⟩ := input
  cases key <;> cases click <;> cases released <;> rfl

theorem publish_input : (s.publish input).2.key = input.key ∧
    (s.publish input).2.click = input.click := by
  obtain ⟨key, click, released, pointer⟩ := input
  cases key <;> cases click <;> exact ⟨rfl, rfl⟩

theorem opened_eq : ∃ vars, (s.opened clock input).1 =
    { s with clock := clock, vars := vars, frames := s.frames + 1 } := by
  obtain ⟨vars, h⟩ := publish_eq (s.setClock clock) input
  refine ⟨vars, ?_⟩
  unfold opened
  dsimp only
  rw [h]
  rfl

theorem foldl_visit (n : Nat) :
    (List.range n).foldl (fun r index => r.1.visit r.2 index) (s.opened clock input) =
      s.turn clock input n := by
  induction n with
  | zero => rfl
  | succ n ih =>
    rw [List.range_succ, List.foldl_append, ih]
    rfl

theorem frame_eq_turn : s.frame clock input = s.turn clock input s.scenes.length := by
  obtain ⟨vars, h⟩ := opened_eq s clock input
  rw [← foldl_visit, show s.scenes.length = (s.opened clock input).1.scenes.length by rw [h]]
  rfl

/-- A scene that is not enabled when its turn comes is passed over. -/
theorem visit_of_not_enabled {s : Show} {index : Nat} {c : Scene}
    (hc : s.scenes[index]? = some c) (he : c.enabled = false) (input : Input) :
    s.visit input index = (s, input) := by
  simp [visit, hc, he]

/-- A scene that is enabled when its turn comes has its triggers updated and its due actions
performed, and then no trigger of it counts as fired. -/
theorem visit_of_enabled {s t : Show} {index : Nat} {c : Scene} {input rest : Input}
    {updated : List Trigger} (hc : s.scenes[index]? = some c) (he : c.enabled)
    (hu : updateTriggers c.name c.triggers input s = (updated, rest, t)) :
    s.visit input index =
      ((performDue index c.name (t.generation? index) (List.range c.actions.length)
        (t.modifyScene index fun c => { c with triggers := updated })).modifyScene index
          Scene.clearFired, rest) := by
  have hg : (t.modifyScene index fun c => { c with triggers := updated }).generation? index =
      t.generation? index := by
    simp [generation?, modifyScene, Function.comp_def]
  unfold visit
  simp only [hc, he, hu]
  rw [hg]
  rfl

end Showrunner.Show
