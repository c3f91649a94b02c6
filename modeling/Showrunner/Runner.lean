import Showrunner.Console
import Showrunner.Settings
import Showrunner.Show.Frame
import Showrunner.Show.Section

namespace Showrunner.Runner

def version : String := "0.1.0"

def settings (read? : String → Option Toml.Document) (disk : Disk) (script dir : Option String) :
    Settings :=
  (Settings.load read? disk Settings.fileName).override script dir

/-- The script of a run: the first argument, or the one of the settings. -/
def scriptPath (settings : Settings) (args : List String) : Path :=
  match args with
  | text :: _ => ⟨text⟩
  | [] => settings.scriptPath

def causes : LoadError → List String
  | .unreadable path => [(LoadError.unreadable path).message, "stream did not contain valid UTF-8"]
  | e => [e.message]

/-- A text of several lines begins behind a mark, and its other lines keep a distance. -/
def indented (mark rest text : String) : String :=
  let (first, others) := Text.splitOn '\n' text
  mark ++ first ++ String.join (others.map fun line => "\n" ++ rest ++ line)

def causeLines : List String → List String
  | [cause] => [indented "    " "    " cause]
  | causes => causes.zipIdx.map fun (cause, n) =>
    indented ("    " ++ toString n ++ ": ") "       " cause

def failure (path : Path) (e : LoadError) : List String :=
  ["Error: while loading '" ++ path.text ++ "'", "", "Caused by:"] ++ causeLines (causes e)

/-- What a step of a show has to say: the texts echoed in it and its diagnostics. -/
def news (before after : Show) : List Message × Show :=
  let sent := after.stage.journal.extract before.stage.journal.size after.stage.journal.size
  let echoes := sent.toList.filterMap fun
    | .echo text => some ⟨.echo, text⟩
    | _ => none
  let (ds, after) := after.takeDiagnostics
  (echoes ++ ds.map fun d => ⟨.diagnostic, d.render⟩, after)

/-- The next word of a generator of 64 bits. -/
def nextWord (word : Nat) : Nat :=
  (word * 6364136223846793005 + 1442695040888963407) % Decimal.twoTo 64

def generator : Generator where
  below bound word := (nextWord word / Decimal.twoTo 33 % bound, nextWord word)
  fraction word := ((nextWord word / Decimal.twoTo 33).toFloat / 2147483648, nextWord word)

def dice (seed : Nat) : Dice := ⟨generator, seed⟩

def prepare (formula : Evaluator) (settings : Settings) (disk : Disk) (dice : Dice)
    (script : Script) : Show :=
  (Show.start settings.display settings.framerate (settings.language.evaluator formula) dice
    disk).install script

def begin (s : Show) (clock : FrameClock) : List Message × Show :=
  let (messages, s) := news s (s.begin clock).2
  (⟨.heading, "MARQUEE " ++ version⟩ :: messages, s)

def step (s : Show) (clock : FrameClock) (input : Input) : List Message × Show × Input :=
  let (after, input) := s.frame clock input
  let (messages, after) := news s after
  (messages, after, input)

/-- A show ends when it is told to, or after its last frame. -/
def isOver (settings : Settings) (s : Show) : Bool :=
  s.exitRequested || settings.maxFrames.any (· ≤ s.frames)

def closing (s : Show) : List Message := (s.lines topLevel .scenes).map fun line => ⟨.dump, line⟩

def due (settings : Settings) (frame : Nat) : Nat := frame * 1000 / max settings.framerate 1

def frames (settings : Settings) (wall : WallClock) : Nat → Show → Input → List Message
  | 0, s, _ => closing s
  | room + 1, s, input =>
    if isOver settings s then closing s
    else
      let (messages, s, input) := step s ⟨due settings s.frames, wall⟩ input
      messages ++ frames settings wall room s input

/-- All that a run has to say when each frame takes exactly its length, with room for so many
frames. -/
def play (settings : Settings) (wall : WallClock) (room : Nat) (s : Show) : List Message :=
  let (messages, s) := begin s ⟨0, wall⟩
  messages ++ frames settings wall room s {}

end Showrunner.Runner
