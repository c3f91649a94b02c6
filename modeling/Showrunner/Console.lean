namespace Showrunner

inductive Tone where
  | echo
  | diagnostic
  | heading
  | dump
deriving DecidableEq, Repr

namespace Tone

def codes : Tone → String
  | .echo => "38;2;220;180;40"
  | .diagnostic => "3;38;2;200;50;50"
  | .heading => "1;4;38;2;223;77;10"
  | .dump => "2;38;2;102;208;250"

def opening (t : Tone) : List Char := ['\x1b', '['] ++ t.codes.toList ++ ['m']

def closing : List Char := ['\x1b', '[', '0', 'm']

/-- A text that itself closes a style goes on in the style around it. -/
def resume (style : List Char) : List Char → List Char
  | '\x1b' :: '[' :: '0' :: 'm' :: s => closing ++ style ++ resume style s
  | c :: s => c :: resume style s
  | [] => []

def paint (t : Tone) (text : String) : String :=
  .ofList (t.opening ++ resume t.opening text.toList ++ closing)

end Tone

structure Message where
  tone : Tone
  text : String
deriving DecidableEq, Repr

namespace Message

def isError (m : Message) : Bool := m.tone == .diagnostic

def painted (m : Message) : String := m.tone.paint m.text

end Message

/-- Whether a console shows colour: a user can force it or forbid it, and otherwise a terminal
does. -/
def showsColor (force forbid want : Option String) (isTerminal : Bool) : Bool :=
  if force.any (· != "0") then true
  else if forbid.isSome then false
  else want.all (· != "0") && isTerminal

end Showrunner
