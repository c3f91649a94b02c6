import Showrunner.Script.Loader

/-!
What comes of asking for a file, however its text is fetched.
-/

namespace Showrunner

variable {d : Disk} {path : Path} {place : Place} {text? : Option String}

theorem Disk.find?_of_resolve? (hp : d.resolve? path = some place) :
    d.find? path = d.node? place := by
  rw [find?, hp, Option.bind_some]

theorem Disk.textAt?_of_node? (hn : d.node? place = some (.file text?)) :
    d.textAt? place = text? := by
  rw [textAt?, hn]

namespace Script

variable {unread : Nat} {l : Loader}

section

variable {m : Type → Type} [Monad m] [MonadExceptOf LoadError m]
  {fetch : Place → m (Option String)} {read : Loader → Path → Place → String → m Loader}

theorem askFile_missing (hf : ∀ text?, d.find? path ≠ some (.file text?)) :
    askFile d fetch read l path = throw (.missing path) := by
  unfold askFile
  cases hp : d.resolve? path with
  | none => rfl
  | some place =>
    rw [Disk.find?_of_resolve? hp] at hf
    dsimp only
    rcases hn : d.node? place with _ | _ | text?
    · rfl
    · rfl
    · exact absurd hn (hf text?)

theorem exists_askFile (d : Disk) (fetch : Place → m (Option String)) (unread : Nat) :
    ∃ read, fetchFile d fetch unread = askFile d fetch read := by
  cases unread with
  | zero => exact ⟨_, rfl⟩
  | succ unread => exact ⟨_, rfl⟩

theorem fetchFile_missing (hf : ∀ text?, d.find? path ≠ some (.file text?)) :
    fetchFile d fetch unread l path = throw (.missing path) := by
  obtain ⟨read, hread⟩ := exists_askFile d fetch unread
  rw [hread, askFile_missing hf]

variable (hp : d.resolve? path = some place) (hn : d.node? place = some (.file text?))
include hp hn

theorem askFile_again (hv : place ∈ l.visited) :
    askFile d fetch read l path = pure (l.report (.alreadyRead path.text)) := by
  unfold askFile
  simp [hp, hn, hv]

theorem askFile_fresh (hv : place ∉ l.visited) : askFile d fetch read l path = (do
    match ← fetch place with
    | none => throw (.unreadable path)
    | some text => read l path place text) := by
  unfold askFile
  simp only [hp, hn, List.contains_eq_mem, hv, decide_false]
  rfl

theorem fetchFile_again (hv : place ∈ l.visited) :
    fetchFile d fetch unread l path = pure (l.report (.alreadyRead path.text)) := by
  obtain ⟨read, hread⟩ := exists_askFile d fetch unread
  rw [hread, askFile_again hp hn hv]

theorem fetchFile_fresh (hv : place ∉ l.visited) :
    ∃ read : Loader → Path → Place → String → m Loader, fetchFile d fetch unread l path = (do
      match ← fetch place with
      | none => throw (.unreadable path)
      | some text => read l path place text) := by
  obtain ⟨read, hread⟩ := exists_askFile d fetch unread
  exact ⟨read, by rw [hread, askFile_fresh hp hn hv]⟩

end

theorem readFile_succ (d : Disk) (unread : Nat) : readFile d (unread + 1) =
    askFile d (fun place => .ok (d.textAt? place)) fun l path place text =>
      readText (readFile d unread) path.parent path.text text
        { l with visited := place :: l.visited } := rfl

theorem readFile_missing (hf : ∀ text?, d.find? path ≠ some (.file text?)) :
    readFile d unread l path = .error (.missing path) := fetchFile_missing hf

section

variable (hp : d.resolve? path = some place)
include hp

theorem readFile_again (hn : d.node? place = some (.file text?)) (hv : place ∈ l.visited) :
    readFile d unread l path = .ok (l.report (.alreadyRead path.text)) :=
  fetchFile_again hp hn hv

theorem readFile_unreadable (hn : d.node? place = some (.file none)) (hv : place ∉ l.visited) :
    readFile d unread l path = .error (.unreadable path) := by
  obtain ⟨read, hread⟩ : ∃ read, readFile d unread l path = _ := fetchFile_fresh hp hn hv
  rw [hread, Disk.textAt?_of_node? hn]
  rfl

variable {text : String} (hn : d.node? place = some (.file (some text))) (hv : place ∉ l.visited)
include hn hv

theorem readFile_spent : readFile d 0 l path = .ok l := by
  have hzero : readFile d 0 = askFile d (fun place => .ok (d.textAt? place)) fun l _ _ _ => .ok l :=
    rfl
  rw [hzero, askFile_fresh hp hn hv, Disk.textAt?_of_node? hn]
  rfl

theorem readFile_reads :
    readFile d (unread + 1) l path = readText (readFile d unread) path.parent path.text text
      { l with visited := place :: l.visited } := by
  rw [readFile_succ, askFile_fresh hp hn hv, Disk.textAt?_of_node? hn]
  rfl

end

/-- A path that is read leads to a file. It is reported as read already, or nothing is done, or its
text is read once. -/
theorem readFile_ok {l' : Loader} (h : readFile d unread l path = .ok l') :
    ∃ place text?, d.resolve? path = some place ∧ d.node? place = some (.file text?) ∧
      (place ∈ l.visited ∧ l' = l.report (.alreadyRead path.text) ∨
        place ∉ l.visited ∧ unread = 0 ∧ l' = l ∨
        place ∉ l.visited ∧ ∃ text n, text? = some text ∧ unread = n + 1 ∧
          readText (readFile d n) path.parent path.text text
            { l with visited := place :: l.visited } = .ok l') := by
  by_cases hf : ∃ text?, d.find? path = some (.file text?)
  · obtain ⟨text?, hf⟩ := hf
    obtain ⟨place, hp, hn⟩ := Option.bind_eq_some_iff.mp hf
    refine ⟨place, text?, hp, hn, ?_⟩
    by_cases hv : place ∈ l.visited
    · rw [readFile_again hp hn hv] at h
      exact .inl ⟨hv, (Except.ok.inj h).symm⟩
    · cases text? with
      | none =>
        rw [readFile_unreadable hp hn hv] at h
        cases h
      | some text =>
        cases unread with
        | zero =>
          rw [readFile_spent hp hn hv] at h
          exact .inr (.inl ⟨hv, rfl, (Except.ok.inj h).symm⟩)
        | succ n =>
          rw [readFile_reads hp hn hv] at h
          exact .inr (.inr ⟨hv, text, n, rfl, rfl, h⟩)
  · rw [readFile_missing (not_exists.mp hf)] at h
    cases h

end Script
end Showrunner
