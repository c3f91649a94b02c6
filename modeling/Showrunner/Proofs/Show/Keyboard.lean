import Showrunner.Proofs.Show.Held

/-!
The variable `KEY` and the keyboard. Main statement: `key_follows_keyboard`.
-/

namespace Showrunner

inductive Keystroke where
  | press (key : String)
  | release
  | frame (clock : FrameClock)

namespace Keystroke

def run (r : Show × Input) : Keystroke → Show × Input
  | press key => (r.1, r.2.pressKey key)
  | release => (r.1, r.2.releaseKey)
  | frame clock => r.1.frame clock r.2

def after (r : Show × Input) (steps : List Keystroke) : Show × Input := steps.foldl run r

/-- A press and the frames since. -/
def since (key : String) (clocks : List FrameClock) : List Keystroke :=
  .press key :: clocks.map .frame

def events (r : Show × Input) : Keystroke → List Event
  | frame clock => r.1.frameEvents clock r.2
  | _ => []

end Keystroke

/-- An input that is left when triggers have taken from another. -/
def Input.Leaves (i j : Input) : Prop := j.released = i.released ∧ (j.key = i.key ∨ j.key = none)

namespace Input.Leaves

variable {i j k : Input}

theorem refl (i : Input) : i.Leaves i := ⟨rfl, .inl rfl⟩

theorem trans (h : i.Leaves j) (hk : j.Leaves k) : i.Leaves k := by
  obtain ⟨hr, hkey⟩ := h
  obtain ⟨kr, kkey⟩ := hk
  refine ⟨kr.trans hr, ?_⟩
  rcases kkey with kkey | kkey
  · rw [kkey]
    exact hkey
  · exact .inr kkey

theorem takeKey (i : Input) (filter : Option String) : i.Leaves (i.takeKey filter).2 := by
  unfold Input.takeKey
  split
  · exact refl i
  · split
    · exact ⟨rfl, .inr rfl⟩
    · exact refl i

theorem update (t : Trigger) (clock : FrameClock) (i : Input) (holds : Bool) :
    i.Leaves (t.update clock i holds).2 := by
  cases hl : t.isLive clock.elapsed with
  | false =>
    unfold Trigger.update
    simp only [hl]
    exact refl i
  | true =>
    by_cases hkey : t.kind = .onKey
    · obtain ⟨filter, hc⟩ := t.exists_of_kind_onKey hkey
      rw [t.update_of_onKey clock i holds hc hl]
      exact takeKey i filter
    · by_cases hclick : t.kind = .onClick
      · rw [t.update_of_onClick clock i holds (t.condition_of_kind_onClick hclick) hl]
        exact ⟨rfl, .inl rfl⟩
      · rw [t.update_input clock i holds hkey hclick]
        exact refl i

end Input.Leaves

namespace Show

variable {s : Show} {input : Input}

theorem leaves_updateTriggers (scene : String) (ts : List Trigger) (input : Input) (s : Show) :
    input.Leaves (updateTriggers scene ts input s).2.1 := by
  induction ts generalizing input s with
  | nil => exact .refl input
  | cons t ts ih =>
    refine Input.Leaves.trans (j := (s.updateTrigger scene input t).2.1) ?_ (ih _ _)
    unfold updateTrigger
    split <;> exact .update ..

theorem ExecutesTurns.leaves {n index : Nat} {clock : FrameClock} {es : List Event}
    {r : Show × Input} (h : ExecutesTurns s clock input n index es r) :
    (s.opened clock input).2.Leaves r.2 := by
  induction h with
  | opened => exact .refl _
  | passed _ _ ih => exact ih
  | @served _ _ _ _ _ r c _ _ _ _ _ _ _ hu _ ih =>
    have hl := leaves_updateTriggers c.name c.triggers r.2 r.1
    rw [hu] at hl
    exact ih.trans hl

theorem leaves_frame (s : Show) (clock : FrameClock) (input : Input) :
    (s.opened clock input).2.Leaves (s.frame clock input).2 := by
  obtain ⟨_, _, h⟩ := executesTurns_turn s clock input s.scenes.length
  rw [← frame_eq_turn] at h
  exact h.leaves

theorem plain_key : Variables.Plain "KEY" := by decide

theorem holds_click (s : Show) (x y : String) :
    Holds "KEY" s ((s.setVar "CLICKX" x topLevel).setVar "CLICKY" y topLevel) :=
  (holds_setVar plain_key (by decide) x).trans (holds_setVar plain_key (by decide) y)

theorem opened_of_key (clock : FrameClock) {key : String} (hk : input.key = some key) :
    (s.opened clock input).1.vars.get? "KEY" topLevel = some key ∧
      (s.opened clock input).2.key = some key ∧
      (s.opened clock input).2.released = input.released := by
  have hset (t : Show) : ((t.setVar "KEY" key topLevel).setVar "LASTKEY" key topLevel).vars.get?
      "KEY" topLevel = some key :=
    have hother : Variables.qualify "LASTKEY" topLevel ≠ "KEY" := by decide
    (holds_setVar plain_key hother key).get?_eq (get?_setVar plain_key t key)
  unfold opened publish
  simp only [hk]
  cases input.click with
  | none => exact ⟨hset _, hk, rfl⟩
  | some place =>
    dsimp only
    generalize Decimal.numberText place.1 = x
    generalize Decimal.numberText place.2 = y
    exact ⟨(holds_click _ x y).get?_eq (hset _), hk, rfl⟩

theorem opened_of_no_key (clock : FrameClock) (hk : input.key = none) :
    (s.opened clock input).1.vars.get? "KEY" topLevel =
        (if input.released then some "none" else s.vars.get? "KEY" topLevel) ∧
      (s.opened clock input).2.key = none ∧ (s.opened clock input).2.released = false := by
  have hset (t : Show) (ht : t.vars.get? "KEY" topLevel = s.vars.get? "KEY" topLevel) :
      (if input.released then t.setVar "KEY" "none" topLevel else t).vars.get? "KEY" topLevel =
        if input.released then some "none" else s.vars.get? "KEY" topLevel := by
    cases input.released with
    | false => exact ht
    | true => exact get?_setVar plain_key t "none"
  unfold opened publish
  simp only [hk, Input.takeRelease]
  cases input.click with
  | none => exact ⟨hset _ rfl, rfl, rfl⟩
  | some place =>
    dsimp only
    generalize Decimal.numberText place.1 = x
    generalize Decimal.numberText place.2 = y
    exact ⟨(holds_click _ x y).get?_eq (hset _ rfl), rfl, rfl⟩

/-- How things are since a key was pressed, with or without a release that no frame had taken up
before: the press is still pending, a trigger has taken it, or a frame has passed since. -/
inductive Follows (key : String) (stale : Bool) (r : Show × Input) : Prop
  | pending (hk : r.2.key = some key) (hr : r.2.released = stale)
  | taken (hk : r.2.key = none) (hr : r.2.released = stale)
    (hv : r.1.vars.get? "KEY" topLevel = some key)
  | settled (hk : r.2.key = none) (hr : r.2.released = false)
    (hv : r.1.vars.get? "KEY" topLevel = some (if stale then "none" else key))

theorem Follows.frame {key : String} {stale : Bool} {r : Show × Input} (h : Follows key stale r)
    (clock : FrameClock) (hes : ∀ e ∈ r.1.frameEvents clock r.2, e.assigned? ≠ some "KEY") :
    Follows key stale (r.1.frame clock r.2) ∧
      (r.1.frame clock r.2).1.vars.get? "KEY" topLevel =
        some (if stale ∧ r.2.key = none then "none" else key) := by
  have hv := frame_holds plain_key (by decide) r.1 clock r.2 hes
  obtain ⟨hr', hk'⟩ := leaves_frame r.1 clock r.2
  unfold Holds at hv
  rw [hv]
  cases h with
  | pending hk hr =>
    obtain ⟨ho, hok, hor⟩ := opened_of_key (s := r.1) clock hk
    rw [ho] at hv ⊢
    rw [hor] at hr'
    rw [hok] at hk'
    refine ⟨?_, by simp [hk]⟩
    rcases hk' with hk' | hk'
    · exact .pending hk' (hr'.trans hr)
    · exact .taken hk' (hr'.trans hr) hv
  | taken hk hr hkey | settled hk hr hkey =>
    -- no press is pending, so a release that waits shows now
    obtain ⟨ho, hok, hor⟩ := opened_of_no_key (s := r.1) clock hk
    have hk' : (r.1.frame clock r.2).2.key = none := hk'.elim (·.trans hok) id
    have hkey' : (r.1.opened clock r.2).1.vars.get? "KEY" topLevel =
        some (if stale then "none" else key) := by
      rw [ho, hr, hkey]
      cases stale <;> rfl
    rw [hkey'] at hv ⊢
    exact ⟨.settled hk' (hr'.trans hor) hv, by simp [hk]⟩

theorem Follows.frames {key : String} {stale : Bool} {r : Show × Input} (h : Follows key stale r)
    (clocks : List FrameClock) (hes : ∀ e ∈ along Keystroke.run Keystroke.events r
      (clocks.map .frame), e.assigned? ≠ some "KEY") :
    Follows key stale (Keystroke.after r (clocks.map .frame)) := by
  induction clocks generalizing r with
  | nil => exact h
  | cons clock clocks ih =>
    exact ih (h.frame clock fun e he => hes e (List.mem_append_left _ he)).1
      fun e he => hes e (List.mem_append_right _ he)

open Keystroke

/-- After a press and any frames since, in which no action assigns `KEY`, `KEY` is the key that was
pressed, whether or not a trigger has taken the press. One thing stands against it: a release that
no frame had taken up before the press. It waits until the press is taken, and then it shows. -/
theorem key_follows_keyboard (r : Show × Input) (before : List Keystroke) (key : String)
    (clocks : List FrameClock) (clock : FrameClock)
    (hes : ∀ e ∈ along run events (after r before) (since key (clocks ++ [clock])),
      e.assigned? ≠ some "KEY") :
    (after r (before ++ since key (clocks ++ [clock]))).1.vars.get? "KEY" topLevel =
      some (if (after r before).2.released ∧ (after r (before ++ since key clocks)).2.key = none
        then "none" else key) := by
  let pressed := run (after r before) (.press key)
  let last := after pressed (clocks.map .frame)
  have hbefore : after r (before ++ since key clocks) = last := by
    simp [after, since, pressed, last]
  have hafter : after r (before ++ since key (clocks ++ [clock])) = run last (.frame clock) := by
    simp [after, since, pressed, last]
  have hcourse : along run events (after r before) (since key (clocks ++ [clock])) =
      along run events pressed (clocks.map .frame) ++ events last (.frame clock) := by
    simp [since, along, along_append, events, pressed, last, after]
  rw [hcourse] at hes
  rw [hbefore, hafter]
  have hpressed : Follows key (after r before).2.released pressed := .pending rfl rfl
  have hlast := hpressed.frames clocks fun e he => hes e (List.mem_append_left _ he)
  exact (hlast.frame clock fun e he => hes e (List.mem_append_right _ he)).2

def keyShow : Show :=
  ((Show.start (640, 480) 30 Expression.evaluate .still .empty).install
    ⟨[.ofContent topLevel ⟨""⟩ ["on key", "echo hi"]], []⟩).startScene topLevel |>.2

theorem key_follows_keyboard_taken :
    (∀ e ∈ along run events (keyShow, {}) (since "a" [⟨40, .midnight⟩, ⟨80, .midnight⟩]),
      e.assigned? ≠ some "KEY") ∧
    (after (keyShow, {}) (since "a" [⟨40, .midnight⟩])).2.key = none ∧
    (after (keyShow, {}) (since "a" [⟨40, .midnight⟩, ⟨80, .midnight⟩])).1.vars.get?
      "KEY" topLevel = some "a" := by
  have hes : ∀ e ∈ along run events (keyShow, {}) (since "a" [⟨40, .midnight⟩, ⟨80, .midnight⟩]),
      e.assigned? ≠ some "KEY" := by decide +kernel
  have htaken : (after (keyShow, {}) (since "a" [⟨40, .midnight⟩])).2.key = none := by
    decide +kernel
  have hkey := key_follows_keyboard (keyShow, {}) [] "a" [⟨40, .midnight⟩] ⟨80, .midnight⟩ hes
  rw [if_neg fun h => Bool.noConfusion h.1, List.nil_append, List.singleton_append] at hkey
  exact ⟨hes, htaken, hkey⟩

/-- The key was released before it was pressed again, but once its press is taken `KEY` tells that
no key is pressed. -/
theorem key_released_late :
    (∀ e ∈ along run events (after (keyShow, {}) [.release])
      (since "a" [⟨40, .midnight⟩, ⟨80, .midnight⟩]), e.assigned? ≠ some "KEY") ∧
    (after (keyShow, {}) (.release :: since "a" [⟨40, .midnight⟩, ⟨80, .midnight⟩])).1.vars.get?
      "KEY" topLevel = some "none" := by
  decide +kernel

end Show
end Showrunner
