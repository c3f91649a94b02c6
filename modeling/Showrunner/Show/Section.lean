import Showrunner.Show.Basic

namespace Showrunner.Show

inductive Section where
  | scenes
  | triggers
  | actions
  | vars
  | sprites
deriving DecidableEq, Repr

def Section.all : List Section := [.scenes, .triggers, .actions, .vars, .sprites]

def Section.ofName? (name : String) : Option Section :=
  match Text.lowerAscii name with
  | "scenes" => some .scenes
  | "triggers" => some .triggers
  | "actions" => some .actions
  | "vars" | "variables" => some .vars
  | "sprites" => some .sprites
  | _ => none

def sceneLine (scene : Scene) : String :=
  "scene " ++ scene.name ++ " (" ++ (if scene.enabled then "running" else "stopped") ++ "): " ++
    toString scene.content.length ++ " line(s), " ++ toString scene.triggers.length ++
    " trigger(s), " ++ toString scene.actions.length ++ " action(s)"

def triggerLine (t : Trigger) : String :=
  "[" ++ t.scene ++ "] " ++ t.kind.name ++ " expired=" ++ toString t.expired ++ " next=" ++
    toString t.nextEligible ++ "ms"

def actionLine (scene : Scene) (a : Action) : String :=
  "[" ++ scene.name ++ "] " ++ a.text ++ " <- " ++
    Text.joinWith ", " ((scene.gates a).map (·.name)) ++
    (if a.complete then " (complete)" else "")

def variableLine (entry : String × String) : String := entry.1 ++ " = " ++ entry.2

/-- The lines of a section. The variables are those that a scene lists. -/
def lines (s : Show) (scene : String) : Section → List String
  | .scenes => s.scenes.map sceneLine
  | .triggers => s.scenes.flatMap fun scene => scene.triggers.map triggerLine
  | .actions => s.scenes.flatMap fun scene => scene.actions.map (actionLine scene)
  | .vars => (s.vars.dump scene).map variableLine
  | .sprites => s.stage.sprites.keys

end Showrunner.Show
