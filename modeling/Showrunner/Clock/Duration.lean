import Showrunner.Decimal.Binary
import Showrunner.Decimal.Reader
import Showrunner.Text.Lowercase
import Showrunner.Text.Words

namespace Showrunner.Duration

def numberNames : List (String × Float) := [
  ("zero", 0), ("one", 1), ("two", 2), ("three", 3), ("four", 4), ("five", 5), ("six", 6),
  ("seven", 7), ("eight", 8), ("nine", 9), ("ten", 10), ("eleven", 11), ("twelve", 12),
  ("thirteen", 13), ("fourteen", 14), ("fifteen", 15), ("sixteen", 16), ("seventeen", 17),
  ("eighteen", 18), ("nineteen", 19), ("twenty", 20), ("thirty", 30), ("forty", 40),
  ("fifty", 50), ("sixty", 60), ("a", 1), ("an", 1)]

def unitNames : List (String × Float) := [
  ("s", 1), ("secs", 1), ("seconds", 1), ("m", 60), ("mins", 60), ("minutes", 60),
  ("h", 3600), ("hrs", 3600), ("hours", 3600)]

def fractionNames : List (String × Float) :=
  [("half", 0.5), ("quarters", 0.25), ("thirds", 1 / 3)]

def isFinite (x : Float) : Bool :=
  match Decimal.reading x with
  | .finite _ _ _ => true
  | _ => false

def number? (word : String) : Option Float :=
  match (Decimal.read? word).filter isFinite with
  | some x => some x
  | none => numberNames.lookup (Text.lowercase word)

def named? (names : List (String × Float)) (word : String) : Option Float :=
  let w := Text.lowercase word
  match names.lookup w with
  | some x => some x
  | none => names.lookup (w ++ "s")

def unit? (word : String) : Option Float := named? unitNames word

def fraction? (word : String) : Option Float := named? fractionNames word

/-- The seconds counted so far while a phrase is read. A number is pending until its unit comes.
Before a number, `scale` collects the fractions that will multiply it. -/
structure Tally where
  total : Float := 0
  pending : Option Float := none
  scale : Float := 1
  lastUnit : Float := 1
  joined : Bool := false
  fractional : Bool := false

namespace Tally

/-- A word where a number may begin. A fraction after a total is a fraction of the last unit. -/
def between (t : Tally) (word : String) : Tally :=
  if word == "and" || word == "&" || word == "of" then t
  else match fraction? word with
    | some f =>
      if t.total > 0 && t.scale == 1 then { t with total := t.total + f * t.lastUnit }
      else { t with scale := t.scale * f }
    | none => { t with pending := some ((number? word).getD 1 * t.scale), scale := 1 }

/-- A word after a number. A fraction multiplies the number, or is added to it after `and`. What
is no unit counts as seconds. -/
def afterNumber (t : Tally) (n : Float) (word : String) : Tally :=
  match fraction? word with
  | some f =>
    { t with pending := some (if t.joined then n + f else n * f), fractional := !t.joined }
  | none =>
    if word == "and" || word == "&" then { t with joined := true }
    else if word == "a" || word == "an" || word == "of" then t
    else
      let unit := (unit? word).getD 1
      { t with
        total := t.total + n * unit, lastUnit := unit, pending := none,
        joined := false, fractional := false }

def step (t : Tally) (word : String) : Tally :=
  match t.pending with
  | none => t.between word
  | some n => t.afterNumber n word

def finish (t : Tally) : Float :=
  match t.pending with
  | none => t.total
  | some n => if t.fractional && t.total > 0 then t.total + n * t.lastUnit else t.total + n

end Tally

def seconds (words : List String) : Float := (words.foldl Tally.step {}).finish

/-- Reads a phrase. The word `same` anywhere repeats the previous duration. Returns the duration
and what is remembered for the next phrase. -/
def read (previous : Option Float) (text : String) : Float × Option Float :=
  let words := Text.words (Text.lowercase text)
  if words.contains "same" then (previous.getD 0, previous)
  else
    let x := seconds words
    (x, some x)

def speed? (text : String) : Option Float := (Text.words text).findSome? number?

/-- Whole milliseconds. Only a positive finite number of seconds gives any. -/
def milliseconds (seconds : Float) : Nat :=
  if isFinite seconds && seconds > 0 then
    (Decimal.nearest 0 (Decimal.twoTo 64 - 1) (seconds * 1000)).toNat
  else 0

end Showrunner.Duration
