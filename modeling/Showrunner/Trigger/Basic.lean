import Showrunner.Clock.TimePattern
import Showrunner.Decimal.Binary
import Showrunner.Input
import Showrunner.Trigger.Kind

namespace Showrunner

namespace Trigger

/-- What a trigger waits for. Delays and periods are in milliseconds. -/
inductive Condition where
  | after (delay : Nat)
  | every (period : Nat)
  | atTime (time : TimeOfDay)
  | eachTime (pattern : TimePattern)
  | onKey (key : Option String)
  | onClick
  | whenTrue (expression : String)
  | whileTrue (expression : String)
deriving DecidableEq, Repr

def Condition.kind : Condition → Kind
  | .after _ => .after
  | .every _ => .every
  | .atTime _ => .atTime
  | .eachTime _ => .eachTime
  | .onKey _ => .onKey
  | .onClick => .onClick
  | .whenTrue _ => .whenTrue
  | .whileTrue _ => .whileTrue

end Trigger

/-- A trigger of a running scene. It is not looked at before `nextEligible`, nor once it has
expired. Elapsed time is counted from `stopwatch`. -/
structure Trigger where
  condition : Trigger.Condition
  scene : String
  fired : Bool
  expired : Bool
  nextEligible : Nat
  stopwatch : Nat
deriving DecidableEq, Repr

namespace Trigger

def ofCondition (condition : Condition) (scene : String) (now : Nat) : Trigger :=
  ⟨condition, scene, false, false, 0, now⟩

def kind (t : Trigger) : Kind := t.condition.kind

def isLive (t : Trigger) (now : Nat) : Bool := !t.expired && t.nextEligible ≤ now

def eachTimePause : Nat := 1000

/-- The time a span from now, counted in 64 bits. A sum that does not fit starts again from zero. -/
def deadline (now span : Nat) : Nat := (now + span) % Decimal.twoTo 64

theorem deadline_le (now span : Nat) : deadline now span ≤ now + span := Nat.mod_le _ _

def question? (t : Trigger) (now : Nat) : Option String :=
  if t.isLive now then
    match t.condition with
    | .whenTrue e | .whileTrue e => some e
    | _ => none
  else none

/-- One frame. The answer to `question?` is given as `holds`. Keys and clicks are taken from the
input, so that no later trigger sees them. -/
def update (t : Trigger) (clock : FrameClock) (input : Input) (holds : Bool) : Trigger × Input :=
  let now := clock.elapsed
  if !t.isLive now then (t, input)
  else match t.condition with
    | .after delay =>
      if delay < now - t.stopwatch then ({ t with fired := true, expired := true }, input)
      else (t, input)
    | .every period =>
      if period < now - t.stopwatch then
        ({ t with fired := true, stopwatch := now, nextEligible := deadline now period }, input)
      else (t, input)
    | .atTime time =>
      if time.reached clock.wall then ({ t with fired := true, expired := true }, input)
      else (t, input)
    | .eachTime pattern =>
      if pattern.accepts clock.wall then
        ({ t with fired := true, nextEligible := deadline now eachTimePause }, input)
      else (t, input)
    | .onKey key =>
      let (taken, rest) := input.takeKey key
      ({ t with fired := taken.isSome }, rest)
    | .onClick =>
      let (taken, rest) := input.takeClick
      ({ t with fired := taken.isSome }, rest)
    | .whenTrue _ | .whileTrue _ => ({ t with fired := holds }, input)

end Trigger
end Showrunner
