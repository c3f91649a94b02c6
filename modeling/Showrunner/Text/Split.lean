namespace Showrunner.Text

def splitFirst (p : Char → Bool) : List Char → Option (List Char × List Char)
  | [] => none
  | c :: s =>
    if p c then some ([], s)
    else (splitFirst p s).map fun (a, b) => (c :: a, b)

def splitLast (p : Char → Bool) : List Char → Option (List Char × List Char)
  | [] => none
  | c :: s =>
    match splitLast p s with
    | some (a, b) => some (c :: a, b)
    | none => if p c then some ([], s) else none

/-- The stretches between the characters that satisfy the test, empty ones included. -/
def pieces (p : Char → Bool) : List Char → List Char × List (List Char)
  | [] => ([], [])
  | c :: s =>
    let (w, ws) := pieces p s
    if p c then ([], w :: ws) else (c :: w, ws)

def splitOn (c : Char) (s : String) : String × List String :=
  let (w, ws) := pieces (· == c) s.toList
  (.ofList w, ws.map .ofList)

def dropReturn (s : List Char) : List Char :=
  if s.getLast? == some '\r' then s.dropLast else s

/-- The lines of a text. A line ends with a line feed, and a carriage return before it is not
part of the line. Nothing after the last line feed is no line. -/
def lines (s : String) : List String :=
  let (w, ws) := pieces (· == '\n') s.toList
  let all := w :: ws
  let ended := all.dropLast.map dropReturn
  let last := all.getLast?.getD []
  (if last.isEmpty then ended else ended ++ [last]).map .ofList

end Showrunner.Text
