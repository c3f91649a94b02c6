import Showrunner.Proofs.Script.Asking

namespace Showrunner

/-- A scene as it is declared: it has not been started yet. -/
def Scene.Unstarted (c : Scene) : Prop := c = .ofContent c.name c.folder c.content

namespace Script

def Loaded (script : Script) : Prop :=
  ∃ d, (∃ path, load d path = .ok script) ∨ ∃ text folder, ofText d text folder = .ok script

def Loader.Unstarted (l : Loader) : Prop := ∀ c ∈ l.scenes, c.Unstarted

/-- A file reader that only declares scenes. -/
def Declares (read : Loader → Path → Except LoadError Loader) : Prop :=
  ∀ l path l', l.Unstarted → read l path = .ok l' → l'.Unstarted

theorem unstarted_define {l : Loader} {c : Scene} (hl : l.Unstarted) (hc : c.Unstarted) :
    (l.define c).Unstarted := by
  unfold Loader.define
  split
  · intro d hd
    obtain ⟨e, he, rfl⟩ := List.mem_map.mp hd
    split
    · exact hc
    · exact hl e he
  · intro d hd
    rcases List.mem_append.mp hd with hd | hd
    · exact hl d hd
    · rw [List.mem_singleton.mp hd]
      exact hc

theorem unstarted_closeBlock {l : Loader} (hl : l.Unstarted) (state : FileState) (folder : Path) :
    (closeBlock l state folder).1.Unstarted := by
  unfold closeBlock
  split
  · exact hl
  · dsimp only
    split
    · exact hl
    · exact unstarted_define hl rfl

theorem unstarted_obey {read : Loader → Path → Except LoadError Loader} (hread : Declares read)
    {folder : Path} {source text : String} {number : Nat} {r r' : Reading}
    (hr : r.loader.Unstarted) (h : r.obey read folder source number text = .ok r') :
    r'.loader.Unstarted := by
  unfold Reading.obey at h
  dsimp only at h
  split at h
  · cases h; exact hr
  · split at h <;> cases h <;> exact unstarted_closeBlock hr _ _
  · cases h; exact unstarted_closeBlock hr _ _
  · cases h; exact hr
  · cases h; exact hr
  · cases h; exact hr
  · cases hf : read r.loader (folder.join ⟨_⟩) with
    | error e => rw [hf] at h; cases h
    | ok l =>
      rw [hf] at h
      cases h
      exact hread _ _ _ hr hf
  · cases h
    unfold Reading.keep
    split <;> exact hr

theorem unstarted_step {read : Loader → Path → Except LoadError Loader} (hread : Declares read)
    {folder : Path} {source : String} {r r' : Reading} {numbered : String × Nat}
    (hr : r.loader.Unstarted) (h : r.step read folder source numbered = .ok r') :
    r'.loader.Unstarted := by
  unfold Reading.step at h
  split at h
  · cases h; exact hr
  · dsimp only at h
    split at h
    · cases h; exact hr
    · cases h; exact hr
    · exact unstarted_obey hread hr h

theorem unstarted_readText {read : Loader → Path → Except LoadError Loader}
    (hread : Declares read) {folder : Path} {source text : String} {l l' : Loader}
    (hl : l.Unstarted) (h : readText read folder source text l = .ok l') : l'.Unstarted := by
  unfold readText at h
  dsimp only at h
  have hs : (⟨l, ⟨none, [], false⟩, false⟩ : Reading).loader.Unstarted := hl
  generalize (⟨l, ⟨none, [], false⟩, false⟩ : Reading) = r at h hs
  generalize (Text.lines text).zipIdx = lines at h
  induction lines generalizing r with
  | nil => cases h; exact unstarted_closeBlock hs _ _
  | cons line lines ih =>
    rw [List.foldlM_cons] at h
    cases hr : r.step read folder source line with
    | error e => rw [hr] at h; cases h
    | ok r' =>
      rw [hr] at h
      exact ih r' (unstarted_step hread hs hr) h

theorem declares_readFile (d : Disk) (unread : Nat) : Declares (readFile d unread) := by
  induction unread with
  | zero =>
    intro l path l' hl h
    obtain ⟨_, _, -, -, ⟨-, rfl⟩ | ⟨-, -, rfl⟩ | ⟨-, _, _, -, hn, -⟩⟩ := readFile_ok h
    · exact hl
    · exact hl
    · cases hn
  | succ unread ih =>
    intro l path l' hl h
    obtain ⟨place, _, -, -, ⟨-, rfl⟩ | ⟨-, hn, -⟩ | ⟨-, text, n, -, hn, ht⟩⟩ := readFile_ok h
    · exact hl
    · cases hn
    · cases hn
      have hv : Loader.Unstarted { l with visited := place :: l.visited } := hl
      exact unstarted_readText ih hv ht

theorem unstarted_finish {l : Loader} (hl : l.Unstarted) : ∀ c ∈ l.finish.scenes, c.Unstarted := by
  unfold Loader.finish
  split
  · exact hl
  · intro c hc
    rcases List.mem_append.mp hc with hc | hc
    · exact hl c hc
    · rw [List.mem_singleton.mp hc]
      rfl

/-- No scene of a script that was read has been started. -/
theorem Loaded.unstarted {script : Script} (h : script.Loaded) :
    ∀ c ∈ script.scenes, c.Unstarted := by
  have hs : ∀ folder, (Loader.start folder).Unstarted := fun _ _ hc => by cases hc
  obtain ⟨d, ⟨path, h⟩ | ⟨text, folder, h⟩⟩ := h
  · unfold load at h
    cases hr : readFile d d.nodes.length (.start path.parent) path with
    | error e => rw [hr] at h; cases h
    | ok l =>
      rw [hr] at h
      cases h
      exact unstarted_finish (declares_readFile d _ _ _ _ (hs _) hr)
  · unfold ofText at h
    cases hr : readText (readFile d d.nodes.length) folder "<script>" text (.start folder) with
    | error e => rw [hr] at h; cases h
    | ok l =>
      rw [hr] at h
      cases h
      exact unstarted_finish (unstarted_readText (declares_readFile d _) (hs _) hr)

end Script
end Showrunner
