import Showrunner.Disk.Path

namespace Showrunner

/-- What lies at a place: a folder, or a file with its text. The bytes of some files are no
text. -/
inductive Node where
  | folder
  | file (text : Option String)
deriving DecidableEq, Repr

structure Place where
  names : List (List Char)
deriving DecidableEq, Repr

/-- The files and folders that can be reached, and the place that a path leads to. Links and the
working folder are left to whoever tells the places. -/
structure Disk where
  nodes : List (Place × Node)
  resolve? : Path → Option Place

namespace Disk

def empty : Disk := ⟨[], fun _ => none⟩

def node? (d : Disk) (place : Place) : Option Node := d.nodes.lookup place

def textAt? (d : Disk) (place : Place) : Option String :=
  match d.node? place with
  | some (.file text?) => text?
  | _ => none

def find? (d : Disk) (p : Path) : Option Node := (d.resolve? p).bind d.node?

def holds (d : Disk) (p : Path) : Bool := (d.find? p).isSome

def isFolder (d : Disk) (p : Path) : Bool := d.find? p == some .folder

def text? (d : Disk) (p : Path) : Option String := (d.resolve? p).bind d.textAt?

end Disk
end Showrunner
