import Showrunner.Proofs.Script.Asking

/-!
Loading that writes down the places of the texts that it reads, and comes to the same as loading.
-/

namespace Showrunner

/-- What writes down places, also when it fails in the end. -/
abbrev Recording := ExceptT LoadError (StateM (List Place))

def Disk.record (d : Disk) (place : Place) : Recording (Option String) := do
  let text? := d.textAt? place
  if text?.isSome then modify (· ++ [place])
  return text?

/-- A recording comes to a result, and writes down some places on the way. -/
def Records {α : Type} (x : Except LoadError α) (y : Recording α) (places : List Place) : Prop :=
  ∀ earlier, y.run.run earlier = (x, earlier ++ places)

namespace Records

variable {α β : Type} {places places' : List Place} {y : Recording α} {f : α → Recording β} {a : α}
  {x : Except LoadError β} {d : Disk} {place : Place}

theorem pure (a : α) : Records (.ok a) (pure a) [] := fun earlier => by
  rw [List.append_nil]
  rfl

theorem throw (e : LoadError) : Records (.error e : Except LoadError α) (throw e) [] :=
  fun earlier => by
    rw [List.append_nil]
    rfl

theorem bind (hy : Records (.ok a) y places) (hf : Records x (f a) places') :
    Records x (y >>= f) (places ++ places') := by
  intro earlier
  rw [ExceptT.run_bind, StateT.run_bind, hy earlier, ← List.append_assoc]
  exact hf (earlier ++ places)

theorem bind_error {e : LoadError} (hy : Records (.error e) y places) :
    Records (.error e) (y >>= f) places := by
  intro earlier
  rw [ExceptT.run_bind, StateT.run_bind, hy earlier]
  rfl

theorem map {x : Except LoadError α} (hy : Records x y places) (g : α → β) :
    Records (x.map g) (g <$> y) places := by
  intro earlier
  rw [ExceptT.run_map, StateT.run_map, hy earlier]
  cases x <;> rfl

theorem record (htext : d.textAt? place = none) : Records (.ok none) (d.record place) [] := by
  intro earlier
  unfold Disk.record
  rw [htext, List.append_nil]
  rfl

theorem record_some {text : String} (htext : d.textAt? place = some text) :
    Records (.ok (some text)) (d.record place) [place] := by
  intro earlier
  unfold Disk.record
  rw [htext]
  rfl

end Records

namespace Script

def recordFile (d : Disk) : Nat → Loader → Path → Recording Loader := fetchFile d d.record

variable {d : Disk} {path : Path} {place : Place} {text? : Option String} {unread : Nat}
  {l : Loader}

theorem recordFile_succ (d : Disk) (unread : Nat) : recordFile d (unread + 1) =
    askFile d d.record fun l path place text =>
      readText (recordFile d unread) path.parent path.text text
        { l with visited := place :: l.visited } := rfl

theorem records_missing (hf : ∀ text?, d.find? path ≠ some (.file text?)) :
    Records (readFile d unread l path) (recordFile d unread l path) [] := by
  rw [readFile_missing hf, recordFile, fetchFile_missing hf]
  exact .throw _

variable (hp : d.resolve? path = some place)
include hp

theorem records_again (hn : d.node? place = some (.file text?)) (hv : place ∈ l.visited) :
    Records (readFile d unread l path) (recordFile d unread l path) [] := by
  rw [readFile_again hp hn hv, recordFile, fetchFile_again hp hn hv]
  exact .pure _

theorem records_unreadable (hn : d.node? place = some (.file none)) (hv : place ∉ l.visited) :
    Records (readFile d unread l path) (recordFile d unread l path) [] := by
  obtain ⟨read, hread⟩ : ∃ read, recordFile d unread l path = _ := fetchFile_fresh hp hn hv
  rw [readFile_unreadable hp hn hv, hread]
  exact (Records.record (Disk.textAt?_of_node? hn)).bind (.throw _)

theorem records_reads {text : String} (hn : d.node? place = some (.file (some text)))
    (hv : place ∉ l.visited) {places : List Place}
    (h : Records
      (readText (readFile d unread) path.parent path.text text
        { l with visited := place :: l.visited })
      (readText (recordFile d unread) path.parent path.text text
        { l with visited := place :: l.visited }) places) :
    Records (readFile d (unread + 1) l path) (recordFile d (unread + 1) l path)
      (place :: places) := by
  rw [recordFile_succ, readFile_reads hp hn hv, askFile_fresh hp hn hv]
  exact (Records.record_some (Disk.textAt?_of_node? hn)).bind h

end Script
end Showrunner
