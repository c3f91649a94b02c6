import Showrunner.Disk.Folder
import Showrunner.Formula.Evaluator
import Showrunner.Runner
import Std.Time

namespace Showrunner.Main

/-- Bytes that are no text stay a file without text. -/
def readNode (file : ByteArray) : Node := .file (String.fromUTF8? file)

partial def readFolder (disk : Disk) (folder : String) (entries : Array IO.FS.DirEntry) :
    IO Disk :=
  entries.foldlM (fun disk entry => do
    let name := folder ++ entry.fileName
    if ← entry.path.isDir then
      readFolder (disk.add ⟨name⟩ .folder) (name ++ "/") (← entry.path.readDir)
    else
      try
        return disk.add ⟨name⟩ (readNode (← IO.FS.readBinFile entry.path))
      catch _ => return disk) disk

def readDisk : IO Disk := do readFolder .bare "" (← (← IO.currentDir).readDir)

def wallClock : IO WallClock := do
  let now ← Std.Time.PlainDateTime.now
  return .ofUnix now.toWallTime.val.second.val

def randomSeed : IO Nat := do
  let bytes ← IO.getRandomBytes 8
  return bytes.foldl (fun n b => 256 * n + b.toNat) 0

def write (color : Bool) (m : Message) : IO Unit :=
  let text := if color then m.painted else m.text
  if m.isError then IO.eprintln text else IO.println text

partial def playOn (settings : Settings) (color : Bool) (started : Nat) (s : Show)
    (input : Input) : IO Unit := do
  if Runner.isOver settings s then
    for m in Runner.closing s do write color m
  else
    let now ← IO.monoMsNow
    let (messages, s, input) := Runner.step s ⟨now - started, ← wallClock⟩ input
    for m in messages do write color m
    let spent := (← IO.monoMsNow) - now
    IO.sleep (Runner.due settings 1 - spent).toUInt32
    playOn settings color started s input

end Showrunner.Main

open Showrunner Showrunner.Main

def main (args : List String) : IO UInt32 := do
  let disk ← readDisk
  let settings := Runner.settings Toml.Document.read? disk (← IO.getEnv "MARQUEE_SCRIPT")
    (← IO.getEnv "MARQUEE_DIR")
  let path := Runner.scriptPath settings args
  let color := showsColor (← IO.getEnv "CLICOLOR_FORCE") (← IO.getEnv "NO_COLOR")
    (← IO.getEnv "CLICOLOR") (← (← IO.getStdout).isTty)
  match Script.load disk path with
  | .error e =>
    for line in Runner.failure path e do IO.eprintln line
    return 1
  | .ok script =>
    let seed ← settings.seed.getDM randomSeed
    let started ← IO.monoMsNow
    let prepared := Runner.prepare Formula.evaluate settings disk (Runner.dice seed) script
    let (messages, s) := Runner.begin prepared ⟨0, ← wallClock⟩
    for m in messages do write color m
    playOn settings color started s {}
    return 0
