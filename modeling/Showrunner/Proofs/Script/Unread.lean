import Mathlib.Data.List.Perm.Subperm
import Showrunner.Proofs.Script.Log

namespace Showrunner

theorem Disk.mem_places {d : Disk} {place : Place} {node : Node} (h : d.node? place = some node) :
    place ∈ d.nodes.map (·.1) := by
  obtain ⟨before, after, hnodes, -⟩ := List.lookup_eq_some_iff.mp h
  rw [hnodes]
  simp

namespace Script

variable {d : Disk}

/-- The files that were read and the number of those that may still be read. -/
structure Unread (d : Disk) (unread : Nat) (visited : List Place) : Prop where
  once : visited.Nodup
  files : ∀ place ∈ visited, ∃ text?, d.node? place = some (.file text?)
  enough : d.nodes.length ≤ visited.length + unread

namespace Unread

variable {unread : Nat} {visited : List Place} {place : Place} {text? : Option String}

theorem start : Unread d d.nodes.length [] := ⟨.nil, nofun, Nat.le_add_left _ _⟩

theorem length_le (h : Unread d unread visited) : visited.length ≤ d.nodes.length := by
  have hsub : visited ⊆ d.nodes.map (·.1) := by
    intro place hplace
    obtain ⟨text?, hfile⟩ := h.files place hplace
    exact Disk.mem_places hfile
  simpa using (List.subperm_of_subset h.once hsub).length_le

theorem visit (h : Unread d (unread + 1) visited) (hn : d.node? place = some (.file text?))
    (hv : place ∉ visited) : Unread d unread (place :: visited) where
  once := List.nodup_cons.mpr ⟨hv, h.once⟩
  files p hp := by
    rcases List.mem_cons.mp hp with rfl | hp
    · exact ⟨text?, hn⟩
    · exact h.files p hp
  enough := by
    have := h.enough
    rw [List.length_cons]
    omega

theorem weaken (h : Unread d unread visited) : Unread d (unread + 1) visited :=
  ⟨h.once, h.files, Nat.le_succ_of_le h.enough⟩

theorem exists_succ (h : Unread d unread visited) (hn : d.node? place = some (.file text?))
    (hv : place ∉ visited) : ∃ n, unread = n + 1 := by
  cases unread with
  | succ n => exact ⟨n, rfl⟩
  | zero =>
    have hmore := (h.weaken.visit hn hv).length_le
    have := h.enough
    rw [List.length_cons] at hmore
    omega

end Unread

mutual

theorem FileLog.unread {n : Nat} {s s' : Ledger} {path : Path} {log : List Entry} :
    FileLog d s path log s' → Unread d n s.visited → Unread d n s'.visited
  | .again _ _ _, hs => hs
  | .first _ hn hv h, hs => h.unread (hs.weaken.visit hn hv)

theorem MarksLog.unread {n : Nat} {folder : Path} {s s' : Ledger} {block : Option Block}
    {ms : List Mark} {log : List Entry} :
    MarksLog d folder s block ms log s' → Unread d n s.visited → Unread d n s'.visited
  | .done, hs => hs
  | .opens h, hs | .ends h, hs | .keep h, hs => h.unread hs
  | .include hf h, hs => h.unread (hf.unread hs)

end

end Script
end Showrunner
