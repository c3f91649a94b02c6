import Showrunner.Disk.Basic

/-!
Disks of which nothing is known but a working folder without links. Its own name is not known, so
that no path from the root or from above leads into it.
-/

namespace Showrunner.Disk

def root : Place := ⟨[]⟩

def workingFolder : Place := ⟨[[]]⟩

/-- One step from a place. Only a folder can be left or entered, and each name in it once. -/
def step? (nodes : List (Place × Node)) (place : Place) (name : List Char) : Option Place :=
  if nodes.lookup place != some .folder then none
  else if name.isEmpty || name == ['.'] then some place
  else if name == ['.', '.'] then some ⟨place.names.dropLast⟩
  else
    let next : Place := ⟨place.names ++ [name]⟩
    if (nodes.lookup next).isSome then some next else none

def walk? (nodes : List (Place × Node)) (p : Path) : Option Place :=
  if p.text.isEmpty then none
  else p.steps.foldlM (step? nodes) (if p.isAbsolute then root else workingFolder)

def ofNodes (nodes : List (Place × Node)) : Disk := ⟨nodes, walk? nodes⟩

def bare : Disk := ofNodes [(root, .folder), (workingFolder, .folder)]

def withNode (d : Disk) (place : Place) (node : Node) : Disk :=
  ofNodes ((place, node) :: d.nodes.filter fun entry => entry.1 != place)

def add (d : Disk) (p : Path) (node : Node) : Disk :=
  let names := p.steps.filter fun step => !step.isEmpty && step != ['.']
  let place (length : Nat) : Place := ⟨workingFolder.names ++ names.take length⟩
  let d := (List.range names.length).foldl (fun d n => d.withNode (place n) .folder) d
  d.withNode (place names.length) node

end Showrunner.Disk
