import Showrunner.Diagnostic
import Showrunner.Disk.Basic
import Showrunner.Scene.Basic
import Showrunner.Text.Lowercase
import Showrunner.Text.Numeral

namespace Showrunner

/-- The scenes of a script in the order of their first definitions, the top level last. -/
structure Script where
  scenes : List Scene
  problems : List Problem

def Script.hasTopLevel (s : Script) : Bool := s.scenes.any fun scene => scene.name == topLevel

inductive LoadError where
  | missing (path : Path)
  | unreadable (path : Path)
deriving DecidableEq, Repr

def LoadError.message : LoadError → String
  | .missing path => "script file '" ++ path.text ++ "' not found"
  | .unreadable path => "failed to read script file '" ++ path.text ++ "'"

namespace Script

structure Loader where
  rootFolder : Path
  visited : List Place
  scenes : List Scene
  topLines : List String
  problems : List Problem

/-- What is open in one file: a scene block with the lines held for it, or a comment. -/
structure FileState where
  block : Option String
  held : List String
  inComment : Bool

def Loader.report (l : Loader) (p : Problem) : Loader := { l with problems := l.problems ++ [p] }

def Loader.define (l : Loader) (scene : Scene) : Loader :=
  if l.scenes.any (·.name == scene.name) then
    { l.report (.redefinedScene scene.name) with
      scenes := l.scenes.map fun s => if s.name == scene.name then scene else s }
  else { l with scenes := l.scenes ++ [scene] }

/-- Ends the open block, if there is one. A block without lines makes no scene. -/
def closeBlock (l : Loader) (state : FileState) (folder : Path) : Loader × FileState :=
  match state.block with
  | none => (l, state)
  | some name =>
    let closed := { state with block := none, held := [] }
    if state.held.isEmpty then (l.report (.emptyScene name), closed)
    else (l.define (.ofContent name folder state.held), closed)

inductive Directive where
  | scene (name : Option String)
  | endScene
  | endFile
  | strayEnd
  | include (file : Option String)
  | content
deriving DecidableEq, Repr

def stripAnd (line : String) : String :=
  match Text.splitFirst Text.isBlank line.toList with
  | some (first, rest) =>
    if Text.sameIgnoringCase (.ofList first) "and" then .ofList (Text.trimStart rest) else line
  | none => line

/-- Reads directives in any case. Names of scenes are made small, names of files are kept. -/
def Directive.ofLine (line : String) : Directive :=
  match Text.words (Text.lowercase line) with
  | "scene" :: rest => .scene rest.head?
  | "end" :: "scene" :: _ => .endScene
  | "end" :: "file" :: _ => .endFile
  | "end" :: _ => .strayEnd
  | "finish" :: _ => .endFile
  | ["include"] => .include none
  | "include" :: _ => .include (some ((Text.words line).getD 1 ""))
  | _ => .content

inductive Screening where
  | skip
  | comment (stillOpen : Bool)
  | text
deriving DecidableEq, Repr

def startsComment (line : List Char) : Bool := ['/', '*'].isPrefixOf line

def endsComment (line : List Char) : Bool := ['*', '/'].isSuffixOf line

/-- Short lines and lines with a hash sign are skipped first, also inside a comment. Then come
comments, and lines without any letter. -/
def screen (inComment : Bool) (line : String) : Screening :=
  let cs := line.toList
  if line.utf8ByteSize < 2 || cs.head? == some '#' then .skip
  else if inComment then .comment !(endsComment cs)
  else if startsComment cs then .comment !(4 ≤ line.utf8ByteSize && endsComment cs)
  else if !cs.any Text.isLetter then .skip
  else .text

/-- The state of reading one file: everything so far, and what is open in this file. `done` tells
that the rest of the file is not read. -/
structure Reading where
  loader : Loader
  file : FileState
  done : Bool

def Reading.keep (r : Reading) (line : String) : Reading :=
  match r.file.block with
  | some _ => { r with file.held := r.file.held ++ [line] }
  | none => { r with loader.topLines := r.loader.topLines ++ [line] }

def Reading.close (r : Reading) (folder : Path) : Reading :=
  let (loader, file) := closeBlock r.loader r.file folder
  { r with loader := loader, file := file }

def Reading.report (r : Reading) (p : Problem) : Reading := { r with loader := r.loader.report p }

section

variable {m : Type → Type} [Monad m]

/-- Carries out one line of text. Included files are read by `readFile`. -/
def Reading.obey (readFile : Loader → Path → m Loader) (folder : Path) (source : String)
    (number : Nat) (r : Reading) (text : String) : m Reading :=
  let line := stripAnd text
  match Directive.ofLine line with
  | .scene none => pure (r.report (.badLine source number .noSceneName))
  | .scene (some name) =>
    let r := r.close folder
    if name == topLevel then pure (r.report (.badLine source number .reservedSceneName))
    else pure { r with file.block := some name }
  | .endScene => pure (r.close folder)
  | .endFile => pure { r with done := true }
  | .strayEnd => pure (r.report (.badLine source number .strayEnd))
  | .include none => pure (r.report (.badLine source number .noFileName))
  | .include (some file) => do
    let l ← readFile r.loader (folder.join ⟨file⟩)
    return { r with loader := l }
  | .content => pure (r.keep line)

def Reading.step (readFile : Loader → Path → m Loader) (folder : Path) (source : String)
    (r : Reading) (numbered : String × Nat) : m Reading :=
  if r.done then pure r
  else
    let text := Text.trim numbered.1
    match screen r.file.inComment text with
    | .skip => pure r
    | .comment stillOpen => pure { r with file.inComment := stillOpen }
    | .text => r.obey readFile folder source (numbered.2 + 1) text

def readText (readFile : Loader → Path → m Loader) (folder : Path) (source text : String)
    (l : Loader) : m Loader := do
  let start : Reading := ⟨l, ⟨none, [], false⟩, false⟩
  let r ← (Text.lines text).zipIdx.foldlM (Reading.step readFile folder source) start
  return (r.close folder).loader

section

variable [MonadExceptOf LoadError m]

/-- Asks for a file. Unless it was read before, the text that `fetch` gives for its place goes on to
be read. -/
def askFile (d : Disk) (fetch : Place → m (Option String))
    (read : Loader → Path → Place → String → m Loader) (l : Loader) (path : Path) : m Loader :=
  match d.resolve? path with
  | none => throw (.missing path)
  | some place =>
    match d.node? place with
    | some (.file _) =>
      if l.visited.contains place then pure (l.report (.alreadyRead path.text))
      else do
        match ← fetch place with
        | none => throw (.unreadable path)
        | some text => read l path place text
    | _ => throw (.missing path)

/-- Reads a file and all that it includes. The number counts the files that may still be read, which
are no more than the disk holds. -/
def fetchFile (d : Disk) (fetch : Place → m (Option String)) : Nat → Loader → Path → m Loader
  | 0 => askFile d fetch fun l _ _ _ => pure l
  | unread + 1 => askFile d fetch fun l path place text =>
    readText (fetchFile d fetch unread) path.parent path.text text
      { l with visited := place :: l.visited }

end

end

def readFile (d : Disk) : Nat → Loader → Path → Except LoadError Loader :=
  fetchFile d fun place => .ok (d.textAt? place)

def Loader.finish (l : Loader) : Script :=
  if l.topLines.isEmpty then ⟨l.scenes, l.problems ++ [.noTopLevel]⟩
  else ⟨l.scenes ++ [.ofContent topLevel l.rootFolder l.topLines], l.problems⟩

def Loader.start (rootFolder : Path) : Loader := ⟨rootFolder, [], [], [], []⟩

def load (d : Disk) (path : Path) : Except LoadError Script :=
  (readFile d d.nodes.length (.start path.parent) path).map Loader.finish

def ofText (d : Disk) (text : String) (folder : Path) : Except LoadError Script :=
  (readText (readFile d d.nodes.length) folder "<script>" text (.start folder)).map Loader.finish

end Script
end Showrunner
