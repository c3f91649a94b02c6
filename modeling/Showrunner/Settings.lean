import Showrunner.Disk.Basic
import Showrunner.Expression.Evaluator
import Showrunner.Toml.Document

namespace Showrunner

inductive Language where
  | restricted
  | unrestricted
deriving DecidableEq, Repr

namespace Language

def name : Language → String
  | .restricted => "restricted"
  | .unrestricted => "unrestricted"

def ofName? : String → Option Language
  | "restricted" => some .restricted
  | "unrestricted" => some .unrestricted
  | _ => none

/-- The evaluator of a language. The one of the unrestricted language comes from outside. -/
def evaluator (formula : Evaluator) : Language → Evaluator
  | .restricted => Expression.evaluate
  | .unrestricted => formula

end Language

structure Settings where
  width : Nat := 1080
  height : Nat := 1920
  framerate : Nat := 30
  rotate : Bool := false
  dir : Path := ⟨"."⟩
  script : Path := ⟨"script.txt"⟩
  language : Language := .restricted
  seed : Option Nat := none
  maxFrames : Option Nat := none
deriving DecidableEq, Repr

namespace Settings

def fileName : Path := ⟨"marquee.toml"⟩

def scriptPath (s : Settings) : Path := s.dir.join s.script

/-- Width and height as the show sees them. A rotated display lies on its side. -/
def display (s : Settings) : Nat × Nat :=
  if s.rotate then (s.height, s.width) else (s.width, s.height)

def field {α : Type} (d : Toml.Document) (name : String) (default : α)
    (of? : Toml.Value → Option α) : Option α :=
  match d.item? name with
  | none => some default
  | some (.value v) => of? v
  | some (.table _) => none

def natBelow? (bound : Nat) : Toml.Value → Option Nat
  | .integer n => if 0 ≤ n && n < bound then some n.toNat else none
  | _ => none

def truth? : Toml.Value → Option Bool
  | .truth b => some b
  | _ => none

def text? : Toml.Value → Option String
  | .text s => some s
  | _ => none

def path? (v : Toml.Value) : Option Path := (text? v).map .mk

/-- The language for expressions. It is named by a text, or by a table with nothing in it but an
empty item of that name. -/
def language? (d : Toml.Document) (default : Language) : Option Language :=
  match d.item? "evaluator" with
  | none => some default
  | some (.value v) => (text? v).bind Language.ofName?
  | some (.table .element) => none
  | some (.table _) =>
    match d.names ["evaluator"] with
    | [name] => if d.isVacant ["evaluator", name] then Language.ofName? name else none
    | _ => none

def ofDocument? (d : Toml.Document) : Option Settings := do
  let base : Settings := {}
  return {
    width := ← field d "width" base.width (natBelow? (Decimal.twoTo 32))
    height := ← field d "height" base.height (natBelow? (Decimal.twoTo 32))
    framerate := ← field d "framerate" base.framerate (natBelow? (Decimal.twoTo 32))
    rotate := ← field d "rotate" base.rotate truth?
    dir := ← field d "dir" base.dir path?
    script := ← field d "script" base.script path?
    language := ← language? d base.language
    seed := ← field d "seed" base.seed fun v => (natBelow? (Decimal.twoTo 64) v).map some
    maxFrames :=
      ← field d "max_frames" base.maxFrames fun v => (natBelow? (Decimal.twoTo 64) v).map some }

/-- The settings that a text spells, or the defaults if anything in it is wrong. What document a
text is, is decided outside. -/
def ofText (read? : String → Option Toml.Document) (text : String) : Settings :=
  ((read? text).bind ofDocument?).getD {}

def load (read? : String → Option Toml.Document) (d : Disk) (path : Path) : Settings :=
  match d.text? path with
  | some text => ofText read? text
  | none => {}

/-- A choice made outside the file replaces a path unless it is empty. -/
def chosen (choice : Option String) (path : Path) : Path :=
  match choice with
  | none | some "" => path
  | some text => ⟨text⟩

def override (s : Settings) (script dir : Option String) : Settings :=
  { s with script := chosen script s.script, dir := chosen dir s.dir }

end Settings
end Showrunner
