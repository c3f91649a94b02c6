import Showrunner.Diagnostic
import Showrunner.Text.Numeral
import Showrunner.Variables.Basic
import Showrunner.Variables.Dice

namespace Showrunner.Variables

/-- A stretch of text: a character that stands for itself, or a reference to a name. -/
inductive Piece where
  | char (c : Char)
  | reference (name : List Char) (braced : Bool)
deriving DecidableEq, Repr

def isNameChar (c : Char) : Bool := Text.isAlphanumeric c || c == '_'

/-- The longest name at the start of a text. A colon, or a point after the first character,
belongs to it only with a name character behind. -/
def nameFrom (started : Bool) : List Char → List Char
  | [] => []
  | c :: s =>
    let joins := s.head?.any isNameChar
    if isNameChar c || (c == ':' && joins) || (c == '.' && joins && started) then
      c :: nameFrom true s
    else []

/-- The reference that a dollar sign opens before this text, whether it is in braces, and the
number of characters it takes. -/
def reference? : List Char → Option (List Char × Bool × Nat)
  | '\x7b' :: s =>
    match Text.splitFirst (· == '\x7d') s with
    | none | some ([], _) => none
    | some (name, _) => some (name, true, name.length + 2)
  | s =>
    match nameFrom false s with
    | [] => none
    | name => some (name, false, name.length)

/-- The pieces of a text after its first `skip` characters. A backslash keeps a dollar sign from
opening a reference. -/
def piecesFrom : Nat → List Char → List Piece
  | _, [] => []
  | skip + 1, _ :: s => piecesFrom skip s
  | 0, c :: s =>
    if c == '\\' && s.head? == some '$' then .char '$' :: piecesFrom 1 s
    else if c != '$' then .char c :: piecesFrom 0 s
    else match reference? s with
      | some (name, braced, width) => .reference name braced :: piecesFrom width s
      | none => .char '$' :: piecesFrom 0 s

def pieces (text : String) : List Piece := piecesFrom 0 text.toList

def random? (v : Variables) (name : String) (d : Dice) : Option (String × Dice) :=
  let drawn (bound : Nat) := let (n, d) := d.below bound; some (toString n, d)
  match name with
  | "PERCENT" => drawn 101
  | "CHANCE" => let (x, d) := d.fraction; some (Decimal.plain x, d)
  | "RANDOMX" => drawn (max (v.display.1 - 1) 1)
  | "RANDOMY" => drawn (max (v.display.2 - 1) 1)
  | _ => none

def fixed? (v : Variables) (name : String) : Option String :=
  match name with
  | "SECOND" => some (toString v.wall.second)
  | "MINUTE" => some (toString v.wall.minute)
  | "HOUR" => some (toString v.wall.hour)
  | "DAY" => some (toString v.wall.day)
  | "MONTH" => some (toString v.wall.month)
  | "YEAR" => some (toString v.wall.year)
  | "WEEKDAY" => some v.wall.weekday.name
  | "MOUSEX" => some (Decimal.numberText v.pointer.1)
  | "MOUSEY" => some (Decimal.numberText v.pointer.2)
  | "FRAMERATE" => some (toString v.framerate)
  | "WIDTH" => some (toString v.display.1)
  | "HEIGHT" => some (toString v.display.2)
  | "CENTERX" | "CENTREX" => some (Decimal.numberText (v.display.1.toFloat / 2))
  | "CENTERY" | "CENTREY" => some (Decimal.numberText (v.display.2.toFloat / 2))
  | _ => none

/-- The value of a name such as `cat.x`, for a sprite of the scene or of the top level. -/
def spriteValue? (name scene : String) (stage : Stage) : Option String := do
  let (tag, suffix) ← Text.splitLast (· == '.') name.toList
  let p ← SpriteProperty.ofSuffix? (.ofList suffix)
  let own := stage.property? (qualify (.ofList tag) scene) p
  let value ← own.or (stage.property? (.ofList (tag.dropWhile (· == ':'))) p)
  return Decimal.numberText value

def settled? (v : Variables) (name scene : String) (stage : Stage) : Option String :=
  (v.fixed? name).or ((spriteValue? name scene stage).or (v.get? name scene))

def lookup? (v : Variables) (name scene : String) (stage : Stage) (d : Dice) :
    Option String × Dice :=
  match v.random? name d with
  | some (value, d) => (some value, d)
  | none => (v.settled? name scene stage, d)

/-- A reference without braces may end at its first point, with the rest as text. -/
def resolve? (v : Variables) (name : List Char) (braced : Bool) (scene : String) (stage : Stage)
    (d : Dice) : Option String × Dice :=
  match v.lookup? (.ofList name) scene stage d with
  | (some value, d) => (some value, d)
  | (none, d) =>
    if braced then (none, d)
    else match Text.splitFirst (· == '.') name with
      | none => (none, d)
      | some (head, rest) =>
        let (value?, d) := v.lookup? (.ofList head) scene stage d
        (value?.map (· ++ .ofList ('.' :: rest)), d)

/-- A text with its references replaced, the names that have no value, and the dice after the
names that drew. -/
structure Expansion where
  text : String
  unresolved : List String
  dice : Dice

def Expansion.isSafe (e : Expansion) : Bool := e.unresolved.isEmpty

def Expansion.diagnostics (e : Expansion) (scene : String) : List Diagnostic :=
  e.unresolved.map fun name => (Problem.noVariable name).within scene

def placeholder : String := "???"

def expandPieces (v : Variables) (scene : String) (stage : Stage) (d : Dice) :
    List Piece → Expansion
  | [] => ⟨"", [], d⟩
  | .char c :: r =>
    let e := v.expandPieces scene stage d r
    { e with text := c.toString ++ e.text }
  | .reference name braced :: r =>
    match v.resolve? name braced scene stage d with
    | (some value, d) =>
      let e := v.expandPieces scene stage d r
      { e with text := value ++ e.text }
    | (none, d) =>
      let e := v.expandPieces scene stage d r
      { e with text := placeholder ++ e.text, unresolved := .ofList name :: e.unresolved }

/-- Replaces the references of a text. Values put in are not looked at again. -/
def expand (v : Variables) (text scene : String) (stage : Stage) (d : Dice) : Expansion :=
  v.expandPieces scene stage d (pieces text)

end Showrunner.Variables
