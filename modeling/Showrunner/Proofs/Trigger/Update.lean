import Mathlib.Data.List.Forall2
import Showrunner.Show.Frame

namespace Showrunner

namespace Trigger

/-- Only a trigger for one moment expires, and a trigger that waits for the user or for an
expression is looked at in every frame. -/
structure Settled (t : Trigger) : Prop where
  expired : t.expired → t.kind = .after ∨ t.kind = .atTime
  prompt : t.kind = .onKey ∨ t.kind = .onClick ∨ t.kind = .whenTrue ∨ t.kind = .whileTrue →
    t.expired = false ∧ t.nextEligible = 0

theorem settled_ofCondition (condition : Condition) (scene : String) (now : Nat) :
    (ofCondition condition scene now).Settled :=
  ⟨fun h => Bool.noConfusion h, fun _ => ⟨rfl, rfl⟩⟩

variable (t : Trigger) (clock : FrameClock) (input : Input) (holds : Bool)

theorem update_eq : ∃ fired expired nextEligible stopwatch, (t.update clock input holds).1 =
    { t with fired := fired, expired := expired, nextEligible := nextEligible,
             stopwatch := stopwatch } := by
  refine ⟨(t.update clock input holds).1.fired, (t.update clock input holds).1.expired,
    (t.update clock input holds).1.nextEligible, (t.update clock input holds).1.stopwatch, ?_⟩
  obtain ⟨condition, _, _, _, _, _⟩ := t
  unfold update
  dsimp only
  split
  · rfl
  · cases condition <;> dsimp only <;> first | rfl | (split <;> rfl)

theorem update_kind : (t.update clock input holds).1.kind = t.kind := by
  obtain ⟨_, _, _, _, h⟩ := t.update_eq clock input holds
  rw [h]
  rfl

theorem update_scene : (t.update clock input holds).1.scene = t.scene := by
  obtain ⟨_, _, _, _, h⟩ := t.update_eq clock input holds
  rw [h]

theorem update_input (hk : t.kind ≠ .onKey) (hc : t.kind ≠ .onClick) :
    (t.update clock input holds).2 = input := by
  obtain ⟨condition, _, _, _, _, _⟩ := t
  unfold update
  dsimp only
  split
  · rfl
  · cases condition with
    | onKey | onClick => contradiction
    | whenTrue | whileTrue => rfl
    | after | every | atTime | eachTime =>
      dsimp only
      split <;> rfl

variable {t}

theorem exists_of_kind_onKey (h : t.kind = .onKey) :
    ∃ filter, t.condition = .onKey filter := by
  obtain ⟨condition, _, _, _, _, _⟩ := t
  cases condition with
  | onKey filter => exact ⟨filter, rfl⟩
  | _ => cases h

theorem condition_of_kind_onClick (h : t.kind = .onClick) : t.condition = .onClick := by
  obtain ⟨condition, _, _, _, _, _⟩ := t
  cases condition with
  | onClick => rfl
  | _ => cases h

theorem update_of_onKey {filter : Option String} (hc : t.condition = .onKey filter)
    (hl : t.isLive clock.elapsed) :
    t.update clock input holds =
      ({ t with fired := (input.takeKey filter).1.isSome }, (input.takeKey filter).2) := by
  simp [update, hl, hc]

theorem update_of_onClick (hc : t.condition = .onClick) (hl : t.isLive clock.elapsed) :
    t.update clock input holds =
      ({ t with fired := input.click.isSome }, { input with click := none }) := by
  simp [update, hl, hc, Input.takeClick]

theorem Settled.update (h : t.Settled) : (t.update clock input holds).1.Settled := by
  obtain ⟨condition, scene, fired, expired, nextEligible, stopwatch⟩ := t
  refine ⟨fun he => ?_, fun hk => ?_⟩
  · rw [update_kind]
    cases condition with
    | after | atTime => simp [kind, Condition.kind]
    | every | eachTime | onKey | onClick | whenTrue | whileTrue =>
      apply h.expired
      revert he
      unfold Trigger.update
      dsimp only
      repeat' split
      all_goals exact id
  · rw [update_kind] at hk
    obtain ⟨he, hn⟩ := h.prompt hk
    dsimp only at he hn
    subst he hn
    cases condition with
    | after | every | atTime | eachTime => simp [kind, Condition.kind] at hk
    | onKey | onClick | whenTrue | whileTrue => simp [Trigger.update, isLive]

theorem Settled.isLive (h : t.Settled) (hk : t.kind = .onKey ∨ t.kind = .onClick) (now : Nat) :
    t.isLive now := by
  obtain ⟨he, hn⟩ := h.prompt (hk.imp_right .inl)
  simp [Trigger.isLive, he, hn]

end Trigger

namespace Show

theorem forall₂_updateTriggers (scene : String) (ts : List Trigger) (input : Input) (s : Show) :
    List.Forall₂ (fun t u => ∃ clock input holds, u = (Trigger.update t clock input holds).1)
      ts (updateTriggers scene ts input s).1 := by
  induction ts generalizing input s with
  | nil => exact .nil
  | cons t ts ih =>
    have hu : ∃ clock input' holds,
        (s.updateTrigger scene input t).1 = (t.update clock input' holds).1 := by
      unfold updateTrigger
      split
      · exact ⟨_, _, _, rfl⟩
      · exact ⟨_, _, _, rfl⟩
    exact .cons hu (ih _ _)

theorem length_updateTriggers (scene : String) (ts : List Trigger) (input : Input) (s : Show) :
    (updateTriggers scene ts input s).1.length = ts.length :=
  (forall₂_updateTriggers scene ts input s).length_eq.symm

theorem mem_updateTriggers {scene : String} {ts : List Trigger} {input : Input} {s : Show}
    {u : Trigger} (h : u ∈ (updateTriggers scene ts input s).1) :
    ∃ t ∈ ts, ∃ clock input holds, u = (t.update clock input holds).1 := by
  have hu := forall₂_updateTriggers scene ts input s
  obtain ⟨j, hj, rfl⟩ := List.getElem_of_mem h
  have hl := hu.length_eq
  exact ⟨ts[j], List.getElem_mem _, hu.get (hl ▸ hj) hj⟩

end Show
end Showrunner
