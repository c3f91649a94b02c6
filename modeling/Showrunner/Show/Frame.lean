import Showrunner.Show.Start

namespace Showrunner.Show

/-- Makes the input readable by scripts. A release counts only when no key press is pending. -/
def publish (s : Show) (input : Input) : Show × Input :=
  let s := { s with vars.pointer := input.pointer }
  let (s, input) := match input.key with
    | some key => ((s.setVar "KEY" key topLevel).setVar "LASTKEY" key topLevel, input)
    | none =>
      let (released, input) := input.takeRelease
      (if released then s.setVar "KEY" "none" topLevel else s, input)
  match input.click with
  | some (x, y) =>
    ((s.setVar "CLICKX" (Decimal.numberText x) topLevel).setVar
      "CLICKY" (Decimal.numberText y) topLevel, input)
  | none => (s, input)

/-- The value of a trigger's expression. The text after `while` is one expression, and that after
`when` is a text with expressions in parentheses. -/
def answer (s : Show) (kind : Trigger.Kind) (text : String) : Except EvalError String :=
  if kind = .whileTrue then s.evaluator text else Span.evaluate s.evaluator text

/-- Whether the expression of a trigger holds. One without a value does not. -/
def probe (s : Show) (kind : Trigger.Kind) (expression scene : String) : Bool × Show :=
  let (e, s) := s.expand expression scene
  if !e.isSafe then (false, s)
  else match s.answer kind e.text with
    | .ok value => (Guard.isTruthy (Text.trim value), s)
    | .error err => (false, s.report ((Problem.evaluation err).within scene))

def updateTrigger (s : Show) (scene : String) (input : Input) (t : Trigger) :
    Trigger × Input × Show :=
  match t.question? s.clock.elapsed with
  | some expression =>
    let (holds, s) := s.probe t.kind expression scene
    let (t, input) := t.update s.clock input holds
    (t, input, s)
  | none =>
    let (t, input) := t.update s.clock input false
    (t, input, s)

def updateTriggers (scene : String) : List Trigger → Input → Show → List Trigger × Input × Show
  | [], input, s => ([], input, s)
  | t :: ts, input, s =>
    let (t, input, s) := s.updateTrigger scene input t
    let (ts, input, s) := updateTriggers scene ts input s
    (t :: ts, input, s)

def dueAction? (scene : Scene) (position : Nat) : Option (Trigger.Kind × String) := do
  let action ← scene.actions[position]?
  if action.complete then none
  let kind ← scene.firstFired action
  return (kind, action.text)

def noteAction (p : Performance) (a : Action) : Action :=
  { a with expanded := p.expanded.or a.expanded, complete := a.complete || p.complete }

def noteAt (s : Show) (index position : Nat) (p : Performance) : Show :=
  s.modifyScene index fun scene =>
    { scene with actions := scene.actions.modify position (noteAction p) }

/-- Performs the due actions at some positions in order, until one of them begins another
generation of the scene. -/
def performDue (index : Nat) (scene : String) (generation : Option Nat) :
    List Nat → Show → Show
  | [], s => s
  | position :: rest, s =>
    match s.scenes[index]?.bind (dueAction? · position) with
    | none => performDue index scene generation rest s
    | some (kind, text) =>
      let (p, s) := (s.announce kind).act text scene
      if s.generation? index != generation then s
      else performDue index scene generation rest (s.noteAt index position p)

/-- Visits the scene at a position, if it is enabled when its turn comes. -/
def visit (s : Show) (input : Input) (index : Nat) : Show × Input :=
  match s.scenes[index]? with
  | none => (s, input)
  | some scene =>
    if !scene.enabled then (s, input)
    else
      let (triggers, input, s) := updateTriggers scene.name scene.triggers input s
      let s := s.modifyScene index fun scene => { scene with triggers := triggers }
      let positions := List.range scene.actions.length
      let s := performDue index scene.name (s.generation? index) positions s
      (s.modifyScene index Scene.clearFired, input)

/-- One frame: the clock is set, the input is published, and the scenes are visited in order. -/
def frame (s : Show) (clock : FrameClock) (input : Input) : Show × Input :=
  let (s, input) := (s.setClock clock).publish input
  let s := { s with frames := s.frames + 1 }
  (List.range s.scenes.length).foldl (fun (s, input) index => s.visit input index) (s, input)

end Showrunner.Show
