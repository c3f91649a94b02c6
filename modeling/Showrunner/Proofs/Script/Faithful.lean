import Showrunner.Disk.Folder
import Showrunner.Proofs.Script.Follow

namespace Showrunner.Script

/-- What a script is read from. -/
inductive Root where
  | file (path : Path)
  | inMemory (text : String) (folder : Path)

def Root.load (d : Disk) : Root → Except LoadError Script
  | .file path => Script.load d path
  | .inMemory text folder => ofText d text folder

def Root.HasLog (d : Disk) (log : List Entry) : Root → Prop
  | .file path => ∃ s, FileLog d ⟨[], 0⟩ path log s
  | .inMemory text folder => ∃ s, MarksLog d folder ⟨[], 0⟩ none (marks text) log s

/-- The script has the lines of a log and no others. The scene of a name is its last block with
lines, where a block counts from its end on, and `main` has the lines outside any block. -/
structure Faithful (script : Script) (log : List Entry) : Prop where
  distinct : (script.scenes.map (·.name)).Nodup
  filled : ∀ c ∈ script.scenes, c.content ≠ []
  main_last : ∀ c ∈ script.scenes.dropLast, c.name ≠ topLevel
  main : (∃ c ∈ script.scenes, c.name = topLevel) ↔ linesOf none log ≠ []
  main_content : ∀ c ∈ script.scenes, c.name = topLevel → c.content = linesOf none log
  content : ∀ c ∈ script.scenes, c.name ≠ topLevel →
    ∃ b, latest? (fun b => linesOf (some b) log) (ended log) c.name = some b ∧
      c.content = linesOf (some b) log
  defined : ∀ b ∈ ended log, linesOf (some b) log ≠ [] → ∃ c ∈ script.scenes, c.name = b.name
  closed : ∀ b ∈ blocks log, b ∈ ended log ∧ b.name ≠ topLevel
  once : (ended log).Nodup
  lines : (kept log).Perm (script.scenes.flatMap (·.content) ++
    (replaced (fun b => linesOf (some b) log) (ended log)).flatMap fun b => linesOf (some b) log)

variable {d : Disk} {l : Loader} {log : List Entry} {s : Ledger} {c : Scene} {script : Script}

def Loader.topScene (l : Loader) : List Scene :=
  if l.topLines.isEmpty then [] else [.ofContent topLevel l.rootFolder l.topLines]

theorem scenes_finish : l.finish.scenes = l.scenes ++ l.topScene := by
  unfold Loader.finish Loader.topScene
  split
  · exact (List.append_nil _).symm
  · rfl

theorem mem_topScene : c ∈ l.topScene ↔
    l.topLines ≠ [] ∧ c = .ofContent topLevel l.rootFolder l.topLines := by
  unfold Loader.topScene
  split <;> simp_all

theorem topScene_content : l.topScene.flatMap (·.content) = l.topLines := by
  unfold Loader.topScene
  split
  · next h => exact (List.isEmpty_iff.mp h).symm
  · exact List.append_nil _

namespace Matches

theorem name_ne (h : Matches l log s) (hc : c ∈ l.scenes) : c.name ≠ topLevel := by
  obtain ⟨b, hb, -⟩ := h.scenes.latest c hc
  obtain ⟨hended, hname, -⟩ := spec_of_latest? hb
  exact hname ▸ (h.known b (mem_blocks_of_mem_ended hended)).2

theorem content_ne (h : Matches l log s) (hc : c ∈ l.scenes) : c.content ≠ [] := by
  obtain ⟨b, hb, hcontent⟩ := h.scenes.latest c hc
  exact hcontent ▸ (spec_of_latest? hb).2.2

theorem distinct (h : Matches l log s) : (l.finish.scenes.map (·.name)).Nodup := by
  rw [scenes_finish, List.map_append, List.nodup_append]
  refine ⟨h.scenes.distinct, ?_, ?_⟩
  · unfold Loader.topScene
    split <;> simp
  · intro n hn m hm
    obtain ⟨c, hc, rfl⟩ := List.mem_map.mp hn
    obtain ⟨k, hk, rfl⟩ := List.mem_map.mp hm
    rw [(mem_topScene.mp hk).2]
    exact h.name_ne hc

theorem main_last (h : Matches l log s) : ∀ c ∈ l.finish.scenes.dropLast, c.name ≠ topLevel := by
  intro c hc
  rw [scenes_finish] at hc
  unfold Loader.topScene at hc
  split at hc
  · rw [List.append_nil] at hc
    exact h.name_ne (List.dropLast_subset _ hc)
  · rw [List.dropLast_concat] at hc
    exact h.name_ne hc

theorem finish (h : Matches l log s) {n : Nat} (hs : Spans none 0 n log) :
    Faithful l.finish log where
  distinct := h.distinct
  filled c hc := by
    rw [scenes_finish] at hc
    rcases List.mem_append.mp hc with hc | hc
    · exact h.content_ne hc
    · obtain ⟨hne, rfl⟩ := mem_topScene.mp hc
      exact hne
  main_last := h.main_last
  main := by
    rw [scenes_finish, ← h.topLines]
    constructor
    · rintro ⟨c, hc, hname⟩
      rcases List.mem_append.mp hc with hc | hc
      · exact absurd hname (h.name_ne hc)
      · exact (mem_topScene.mp hc).1
    · intro hne
      exact ⟨_, List.mem_append_right _ (mem_topScene.mpr ⟨hne, rfl⟩), rfl⟩
  main_content c hc hname := by
    rw [scenes_finish] at hc
    rcases List.mem_append.mp hc with hc | hc
    · exact absurd hname (h.name_ne hc)
    · rw [(mem_topScene.mp hc).2, ← h.topLines]
      rfl
  content c hc hname := by
    rw [scenes_finish] at hc
    rcases List.mem_append.mp hc with hc | hc
    · exact h.scenes.latest c hc
    · rw [(mem_topScene.mp hc).2] at hname
      exact absurd rfl hname
  defined b hb hne := by
    obtain ⟨c, hc, hname⟩ := h.scenes.defined b hb hne
    exact ⟨c, scenes_finish ▸ List.mem_append_left _ hc, hname⟩
  closed b hb := ⟨hs.closed b hb, (h.known b hb).2⟩
  once := hs.once
  lines := by
    rw [scenes_finish, List.flatMap_append, topScene_content, h.topLines]
    refine (kept_perm hs.closed hs.once).trans ?_
    refine ((h.scenes.perm hs.once).append_left _).trans ?_
    rw [← List.append_assoc]
    exact List.perm_append_comm.append_right _

end Matches

end Showrunner.Script
