import Showrunner.Command.Run
import Showrunner.Variables.Guard

namespace Showrunner.Show

/-- Runs one command line for a scene and tells whether the action is complete. A command that
fails is reported. -/
def dispatch (start : Show → String → Show) (s : Show) (line scene : String) : Bool × Show :=
  let words := Text.words line
  if words.isEmpty then (false, s)
  else match s.registry.find? words with
    | none => (false, s.report ((Problem.unknownCommand line).within scene))
    | some (command, found) =>
      let s := s.reportAll (found.mismatches.map fun m => (Problem.mismatch m).within scene)
      match (command.handler.run start ⟨scene, found⟩).run.run s with
      | (.ok outcome, s) => (outcome == .complete, s)
      | (.error e, s) => (false, s.report ((Problem.commandFailed command.id e).within scene))

structure Performance where
  expanded : Option String
  complete : Bool

def runGuarded (start : Show → String → Show) (s : Show) (text scene : String) :
    Performance × Show :=
  match Guard.body? text with
  | none => (⟨some text, false⟩, s)
  | some body =>
    let line := Text.trim body
    let (complete, s) := dispatch start s line scene
    (⟨some line, complete⟩, s)

/-- Performs the text of an action. A text with a reference without a value is run without
evaluating its expressions. -/
def perform (start : Show → String → Show) (s : Show) (text scene : String) :
    Performance × Show :=
  let (e, s) := s.expand text scene
  if e.isSafe then
    match Span.evaluate s.evaluator e.text with
    | .ok text => runGuarded start s text scene
    | .error err => (⟨none, false⟩, s.report ((Problem.evaluation err).within scene))
  else runGuarded start s e.text scene

end Showrunner.Show
