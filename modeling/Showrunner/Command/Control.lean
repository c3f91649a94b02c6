import Showrunner.Command.Act
import Showrunner.Show.Section

namespace Showrunner.Command

def echo (inv : Invocation) : Act Outcome := do
  Act.send (.echo ((inv.text? "rest").getD ""))
  return .again

def assign (inv : Invocation) : Act Outcome := do
  let name ← inv.required "name" "a variable name"
  modify (·.setVar name ((inv.text? "rest").getD "") inv.scene)
  return .again

def startScenes (start : Show → String → Show) (inv : Invocation) : Act Outcome := do
  let names := inv.list "list"
  if names.isEmpty then Act.report inv .startedNothing
  modify fun s => names.foldl start s
  return .again

/-- Stops scenes, or the scene itself if none are named. -/
def stopScenes (inv : Invocation) : Act Outcome := do
  let names := inv.list "list"
  let names := if names.isEmpty then [inv.scene] else names
  modify fun s => names.foldl (fun s name => (s.stopScene name).2) s
  return .again

def dumpSection (scene : String) (s : Show) (name : String) : Show :=
  match Show.Section.ofName? name with
  | none => s.report ((Problem.unknownSection name).within scene)
  | some part =>
    let viewer := if part = .vars then scene else topLevel
    (s.lines viewer part).foldl (fun s line => s.send (.echo line)) s

def dump (inv : Invocation) : Act Outcome := do
  let names := inv.list "list"
  let names := if names.isEmpty then ["scenes", "triggers", "actions", "vars", "sprites"] else names
  modify fun s => names.foldl (dumpSection inv.scene) s
  return .again

def exit : Act Outcome := do
  modify fun s => { s with exitRequested := true }
  return .complete

end Showrunner.Command
