import Showrunner.Clock.Duration
import Showrunner.Command.Builtin
import Showrunner.Disk.Basic
import Showrunner.Script.Loader
import Showrunner.Variables.Expansion
import Showrunner.Variables.Span

namespace Showrunner

/-- A show in progress. -/
structure Show where
  scenes : List Scene
  vars : Variables
  dice : Dice
  registry : Registry
  stage : Stage
  evaluator : Evaluator
  disk : Disk
  lastDuration : Option Float
  diagnostics : Array Diagnostic
  clock : FrameClock
  frames : Nat
  startDepth : Nat
  exitRequested : Bool

namespace Show

def start (display : Nat × Nat) (framerate : Nat) (evaluator : Evaluator) (dice : Dice)
    (disk : Disk) : Show where
  scenes := []
  vars := .start display framerate
  dice := dice
  registry := .builtin
  stage := .empty
  evaluator := evaluator
  disk := disk
  lastDuration := none
  diagnostics := #[]
  clock := ⟨0, .midnight⟩
  frames := 0
  startDepth := 0
  exitRequested := false

def report (s : Show) (d : Diagnostic) : Show := { s with diagnostics := s.diagnostics.push d }

def reportAll (s : Show) (ds : List Diagnostic) : Show :=
  { s with diagnostics := s.diagnostics ++ ds }

def send (s : Show) (e : Effect) : Show := { s with stage := s.stage.apply e }

def setVar (s : Show) (name value scene : String) : Show :=
  { s with vars := s.vars.set name value scene }

def sceneIndex? (s : Show) (name : String) : Option Nat :=
  s.scenes.findIdx? fun scene => Text.sameIgnoringCase scene.name name

def scene? (s : Show) (name : String) : Option Scene :=
  s.scenes.find? fun scene => Text.sameIgnoringCase scene.name name

def modifyScene (s : Show) (index : Nat) (f : Scene → Scene) : Show :=
  { s with scenes := s.scenes.modify index f }

def generation? (s : Show) (index : Nat) : Option Nat := s.scenes[index]?.map (·.generation)

def addScene (s : Show) (scene : Scene) : Show :=
  match s.sceneIndex? scene.name with
  | some index => s.modifyScene index fun _ => scene
  | none => { s with scenes := s.scenes ++ [scene] }

def install (s : Show) (script : Script) : Show :=
  script.scenes.foldl addScene (s.reportAll (script.problems.map Problem.anywhere))

def holds (stage : Stage) : TagKind → String → Bool
  | .sprite, tag => stage.hasSprite tag
  | .image, tag => stage.hasImage tag
  | .sound, tag => stage.hasSound tag
  | .resource, tag => stage.hasImage tag || stage.hasSound tag

/-- What a tag means in a scene. A tag that means nothing is reported. -/
def resolveTag (s : Show) (kind : TagKind) (scene tag : String) : Option String × Show :=
  match (s.scene? scene).bind fun owner => owner.resolveTag tag (holds s.stage kind) with
  | some name => (some name, s)
  | none => (none, s.report ((Problem.noTag kind tag).within scene))

def qualifyTag (s : Show) (scene tag : String) : String :=
  match s.scene? scene with
  | some owner => owner.qualifyTag tag
  | none => tag

def readDuration (s : Show) (text : Option String) : Float × Show :=
  match text with
  | none => (0, s)
  | some text =>
    let (x, last) := Duration.read s.lastDuration text
    (x, { s with lastDuration := last })

def expand (s : Show) (text scene : String) : Variables.Expansion × Show :=
  let e := s.vars.expand text scene s.stage s.dice
  (e, { s with dice := e.dice }.reportAll (e.diagnostics scene))

/-- Stops a scene: its actions, triggers, sprites and variables go. -/
def stopScene (s : Show) (name : String) : Bool × Show :=
  match s.sceneIndex? name, s.scene? name with
  | some index, some scene =>
    if scene.isTopLevel then (false, s.report Problem.topLevelStopped.anywhere)
    else
      (true, { s.modifyScene index fun scene => { scene.reset with enabled := false } with
        stage := s.stage.removeScene scene.name
        vars := s.vars.purge scene.name })
  | _, _ => (false, s.report (Problem.noScene name).anywhere)

def takeDiagnostics (s : Show) : List Diagnostic × Show :=
  (s.diagnostics.toList, { s with diagnostics := #[] })

end Show
end Showrunner
