import Showrunner.Show.Perform

namespace Showrunner.Show

/-- Scenes that start each other more deeply than this are refused. -/
def maxStartDepth : Nat := 16

def resolveArgument (s : Show) (text scene : String) : Option String × Show :=
  let (e, s) := s.expand text scene
  if !e.isSafe then (none, s)
  else match Span.evaluate s.evaluator e.text with
    | .ok text => (some text, s)
    | .error err => (none, s.report ((Problem.evaluation err).within scene))

def condition (s : Show) (kind : Trigger.Kind) (argument scene : String) :
    Option Trigger.Condition × Show :=
  match kind with
  | .after =>
    let (x, s) := s.readDuration (some argument)
    (some (.after (Duration.milliseconds x)), s)
  | .every =>
    let (x, s) := s.readDuration (some argument)
    (some (.every (Duration.milliseconds x)), s)
  | .onKey => (some (.onKey (Text.words argument).head?), s)
  | .atTime =>
    match TimeOfDay.read? argument with
    | some time => (some (.atTime time), s)
    | none => (none, s.report ((Problem.badTimeOfDay argument).within scene))
  | .eachTime =>
    match TimePattern.read? argument with
    | some pattern => (some (.eachTime pattern), s)
    | none => (none, s.report ((Problem.badTimePattern argument).within scene))
  | .onClick => (some .onClick, s)
  | .whenTrue => (some (.whenTrue argument), s)
  | .whileTrue => (some (.whileTrue argument), s)
  | .start => (none, s)

/-- The trigger of a trigger line. The expressions of `when` and `while` and the argument of a
click are kept as they are. -/
def buildTrigger (s : Show) (d : Trigger.Declaration) (scene : String) : Option Trigger × Show :=
  let raw := d.argument.getD ""
  let (c, s) :=
    match d.kind with
    | .start | .onClick | .whenTrue | .whileTrue => s.condition d.kind raw scene
    | kind =>
      match s.resolveArgument raw scene with
      | (some argument, s) => s.condition kind argument scene
      | (none, s) => (none, s)
  (c.map fun c => .ofCondition c scene s.clock.elapsed, s)

def buildTriggers (scene : String) : List Trigger.Declaration → Show → List Trigger × Show
  | [], s => ([], s)
  | d :: ds, s =>
    let (t, s) := s.buildTrigger d scene
    let (ts, s) := buildTriggers scene ds s
    (t.toList ++ ts, s)

/-- Adds triggers and the actions that they gate. Without a trigger there are no actions. -/
def gate (scene : Scene) (triggers : List Trigger) (actions : List String) : Scene :=
  let bound := List.range' scene.triggers.length triggers.length
  { scene with
    triggers := scene.triggers ++ triggers
    actions := if triggers.isEmpty then scene.actions
      else scene.actions ++ actions.map (Action.ofText · bound) }

def buildGroup (index : Nat) (scene : String) (s : Show) (g : Scene.Group) : Show :=
  if g.actions.isEmpty || g.isStartOnly then s
  else if g.declarations.isEmpty then
    s.report ((Problem.orphanActions g.actions).within scene)
  else
    let declared := g.declarations.filter fun d => d.kind != .start
    let (triggers, s) := buildTriggers scene declared s
    s.modifyScene index fun scene => gate scene triggers g.actions

/-- The actions to perform at once: those of the groups that only `begin` gates. -/
def beginLines (groups : List Scene.Group) : List String :=
  (groups.filter (·.isStartOnly)).flatMap (·.actions)

def announce (s : Show) (kind : Trigger.Kind) : Show := s.setVar "TRIGGER" kind.name topLevel

/-- Performs begin actions until one of them begins another generation of the scene. -/
def beginWith (start : Show → String → Show) (index : Nat) (scene : String)
    (generation : Option Nat) : List String → Show → Show
  | [], s => s
  | text :: rest, s =>
    if s.generation? index != generation then s
    else beginWith start index scene generation rest
      (perform start (s.announce .start) text scene).2

def rebuild (s : Show) (index : Nat) (scene : Scene) : Show :=
  let cleared := s.modifyScene index fun scene =>
    { scene.reset with enabled := true, fromFolder := "" }
  (Scene.groups scene.content).foldl (buildGroup index scene.name) cleared

/-- Starts a scene again, with room for so many more starts within this one. -/
def startWithin : Nat → Show → String → Bool × Show
  | room, s, name =>
    match s.sceneIndex? name, s.scene? name with
    | some index, some scene =>
      match room with
      | 0 => (false, s.report (Problem.startedTooDeeply name).anywhere)
      | room + 1 =>
        let s := s.rebuild index scene
        let generation := s.generation? index
        let s := { s with startDepth := s.startDepth + 1 }
        let s := beginWith (fun s name => (startWithin room s name).2) index scene.name generation
          (beginLines (Scene.groups scene.content)) s
        (true, { s with startDepth := s.startDepth - 1 })
    | _, _ => (false, s.report (Problem.noScene name).anywhere)

def startScene (s : Show) (name : String) : Bool × Show :=
  startWithin (maxStartDepth - s.startDepth) s name

def command (s : Show) (line scene : String) : Bool × Show :=
  dispatch (fun s name => (s.startScene name).2) s line scene

def act (s : Show) (text scene : String) : Performance × Show :=
  perform (fun s name => (s.startScene name).2) s text scene

def setClock (s : Show) (clock : FrameClock) : Show :=
  { s with clock := clock, vars.wall := clock.wall }

def begin (s : Show) (clock : FrameClock) : Bool × Show := (s.setClock clock).startScene topLevel

end Showrunner.Show
