import Showrunner.Text.Split

namespace Showrunner

/-- The written form of a path. Paths that differ in writing are different even if they lead to
the same place. -/
structure Path where
  text : String
deriving DecidableEq, Repr

namespace Path

def isAbsolute (p : Path) : Bool := p.text.toList.head? == some '/'

def steps (p : Path) : List (List Char) :=
  let (w, ws) := Text.pieces (· == '/') p.text.toList
  w :: ws

/-- A path from inside a folder. An absolute path leaves the folder, and no second slash is
written after one that ends the folder. -/
def join (folder inner : Path) : Path :=
  if inner.isAbsolute then inner
  else if folder.text.isEmpty || folder.text.toList.getLast? == some '/' then
    ⟨folder.text ++ inner.text⟩
  else ⟨folder.text ++ "/" ++ inner.text⟩

/-- Steps that lead nowhere new: empty ones, and a dot that is not the start of the path. -/
def isIdle (isFirst : Bool) (step : List Char) : Bool :=
  step.isEmpty || (step == ['.'] && !isFirst)

def dropIdle (isFirst : Bool) : List (List Char) → List (List Char)
  | [] => []
  | step :: rest =>
    match dropIdle false rest with
    | [] => if isIdle isFirst step then [] else [step]
    | kept => step :: kept

def ofSteps (steps : List (List Char)) : Path :=
  ⟨.ofList (List.intercalate ['/'] steps)⟩

def parent (p : Path) : Path :=
  let kept := dropIdle true (dropIdle true p.steps).dropLast
  if kept.isEmpty && p.isAbsolute then ⟨"/"⟩ else ofSteps kept

def fileName? (p : Path) : Option (List Char) :=
  match (dropIdle true p.steps).getLast? with
  | none | some ['.'] | some ['.', '.'] => none
  | some step => some step

/-- The file name before and after its last point. A point at the start of a name divides
nothing. -/
def nameParts? (p : Path) : Option (List Char × Option (List Char)) :=
  p.fileName?.map fun name =>
    match Text.splitLast (· == '.') name with
    | none | some ([], _) => (name, none)
    | some (stem, extension) => (stem, some extension)

def stem? (p : Path) : Option String := p.nameParts?.map fun parts => .ofList parts.1

def extension? (p : Path) : Option String :=
  p.nameParts?.bind fun parts => parts.2.map .ofList

end Path
end Showrunner
