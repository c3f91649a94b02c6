import Showrunner.Text.Character

namespace Showrunner.Text

def trimStart (s : List Char) : List Char := s.dropWhile isBlank

def trimEnd (s : List Char) : List Char := (trimStart s.reverse).reverse

def trim (s : String) : String := .ofList (trimEnd (trimStart s.toList))

def cutWord : List Char → List Char × List (List Char)
  | [] => ([], [])
  | c :: s =>
    let (w, ws) := cutWord s
    if isBlank c then ([], if w.isEmpty then ws else w :: ws) else (c :: w, ws)

def wordLists (s : List Char) : List (List Char) :=
  let (w, ws) := cutWord s
  if w.isEmpty then ws else w :: ws

def words (s : String) : List String := (wordLists s.toList).map .ofList

def joinWith (sep : String) : List String → String
  | [] => ""
  | [w] => w
  | w :: v :: ws => w ++ sep ++ joinWith sep (v :: ws)

def unwords (ws : List String) : String := joinWith " " ws

end Showrunner.Text
