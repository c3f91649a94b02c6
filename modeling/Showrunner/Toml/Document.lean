import Showrunner.Text.Split
import Showrunner.Toml.Value

namespace Showrunner.Toml

inductive Line where
  | nothing
  | table (path : List String)
  | element (path : List String)
  | entry (path : List String) (value : Value)

def keyPart? : List Char → Option (String × List Char)
  | '"' :: s => (quoted? s).map fun (t, rest) => (.ofList t, rest)
  | '\'' :: s => (literal? s).map fun (t, rest) => (.ofList t, rest)
  | s =>
    let (word, rest) := s.span fun c => c.isAlphanum || c == '_' || c == '-'
    if word.isEmpty then none else some (.ofList word, rest)

def keyWithin? : Nat → List Char → Option (List String × List Char)
  | 0, _ => none
  | room + 1, s => do
    let (part, s) ← keyPart? (skip s)
    match skip s with
    | '.' :: s =>
      let (parts, rest) ← keyWithin? room s
      return (part :: parts, rest)
    | rest => return ([part], rest)

def key? (s : List Char) : Option (List String × List Char) := keyWithin? (depthLimit - 1) s

def isEnd (s : List Char) : Bool :=
  match skip s with
  | [] => true
  | '#' :: comment => comment.all isTextChar
  | _ => false

def Line.read? (s : List Char) : Option Line :=
  match skip s with
  | '[' :: '[' :: s =>
    match key? s with
    | some (path, ']' :: ']' :: rest) => if isEnd rest then some (.element path) else none
    | _ => none
  | '[' :: s =>
    match key? s with
    | some (path, ']' :: rest) => if isEnd rest then some (.table path) else none
    | _ => none
  | s =>
    if isEnd s then some .nothing
    else match key? s with
      | some (path, '=' :: rest) => do
        let (v, rest) ← value? (skip rest)
        if isEnd rest then some (.entry path v) else none
      | _ => none

/-- How a table came to be: as part of a header's path, as part of an entry's key, by a header of
its own, or as an element of an array of tables. -/
inductive Origin where
  | implied
  | keyed
  | headed
  | element
deriving DecidableEq, Repr

inductive Item where
  | value (v : Value)
  | table (origin : Origin)

/-- All items read so far by their full paths, the newest first, and the table that entries
belong to. -/
structure Document where
  items : List (List String × Item)
  current : List String

namespace Document

def empty : Document := ⟨[], []⟩

/-- The items with the tables on a path that leads on from a table. A key does not lead through
a table that has a header. -/
def enter? (origin : Origin) (base : List String) :
    List String → List (List String × Item) → Option (List (List String × Item))
  | [], items => some items
  | part :: parts, items =>
    let path := base ++ [part]
    match items.lookup path with
    | none => enter? origin path parts ((path, .table origin) :: items)
    | some (.value _) => none
    | some (.table .headed) =>
      if origin = .keyed then none else enter? origin path parts items
    | some (.table _) => enter? origin path parts items

def isKeyed (items : List (List String × Item)) (path : List String) : Bool :=
  match items.lookup path with
  | some (.table .keyed) => true
  | _ => false

/-- Adds a line. Nothing can be defined twice. -/
def add? (d : Document) : Line → Option Document
  | .nothing => some d
  | .entry path v => do
    let folder := path.dropLast
    let items ← enter? .keyed d.current folder d.items
    if !folder.isEmpty && !isKeyed items (d.current ++ folder) then none
    match items.lookup (d.current ++ path) with
    | none => return { d with items := (d.current ++ path, .value v) :: items }
    | some _ => none
  | .table path => do
    let items ← enter? .implied [] path.dropLast d.items
    match items.lookup path with
    | none | some (.table .implied) => return ⟨(path, .table .headed) :: items, path⟩
    | some _ => none
  | .element path => do
    let items ← enter? .implied [] path.dropLast d.items
    match items.lookup path with
    | none | some (.table .element) =>
      let others := items.filter fun item => !path.isPrefixOf item.1
      return ⟨(path, .table .element) :: others, path⟩
    | some _ => none

def dropMark : List Char → List Char
  | '\ufeff' :: s => s
  | s => s

def read? (text : String) : Option Document :=
  (Text.lines (.ofList (dropMark text.toList))).foldlM
    (fun d line => (Line.read? line.toList).bind d.add?) empty

def item? (d : Document) (name : String) : Option Item := d.items.lookup [name]

def names (d : Document) (path : List String) : List String :=
  (d.items.filterMap fun (p, _) => if p.dropLast = path then p.getLast? else none).eraseDups

/-- An empty array or an empty table lies at the path. -/
def isVacant (d : Document) (path : List String) : Bool :=
  match d.items.lookup path with
  | some (.value (.array [])) => true
  | some (.value _) | some (.table .element) | none => false
  | some (.table _) => (d.names path).isEmpty

end Document
end Showrunner.Toml
