import Showrunner.Proofs.Script.Faithful
import Showrunner.Proofs.Text.SmallWords

namespace Showrunner.Script

open Text

variable {d : Disk} {line name word : String} {rest : List String}

theorem Directive.ofLine_scene (hl : words line = word :: name :: rest)
    (hw : lowercase word = "scene") : Directive.ofLine line = .scene (some (lowercase name)) := by
  unfold Directive.ofLine
  rw [words_lowercase, hl, List.map_cons, hw]
  rfl

theorem Directive.small_of_scene (h : Directive.ofLine line = .scene (some name)) :
    lowercase name = name := by
  unfold Directive.ofLine at h
  split at h <;> try cases h
  next rest hw =>
    have hn : name ∈ rest := List.mem_of_mem_head? (Directive.scene.inj h)
    exact words_of_lowercase (hw ▸ List.mem_cons_of_mem _ hn)

theorem Mark.of?_eq_opens {directive : Directive}
    (h : Mark.of? line directive = some (.opens name)) :
    directive = .scene (some name) ∧ name ≠ topLevel := by
  unfold Mark.of? at h
  split at h
  · split at h
    · cases h
    · next hne =>
      cases h
      exact ⟨rfl, by simpa using hne⟩
  all_goals cases h

/-- A line opens blocks of this name by the word `scene` in any case and a word after it. -/
def Block.OpenedAs (b : Block) (word : String) : Prop :=
  ∃ line directive rest, words line = directive :: word :: rest ∧ lowercase directive = "scene" ∧
    Mark.of? line (Directive.ofLine line) = some (.opens b.name)

theorem Block.OpenedAs.name_eq {b : Block} (h : b.OpenedAs word) : b.name = lowercase word := by
  obtain ⟨line, directive, rest, hl, hd, hm⟩ := h
  have hdirective := (Mark.of?_eq_opens hm).1
  rw [Directive.ofLine_scene hl hd] at hdirective
  exact (Option.some.inj (Directive.scene.inj hdirective)).symm

theorem Block.OpenedAs.solid {b : Block} (h : b.OpenedAs word) :
    Solid word.toList ∧ word ≠ "" := by
  obtain ⟨line, directive, rest, hl, -⟩ := h
  exact solid_of_mem_words (by rw [hl]; simp)

theorem small_of_opens {lines : List String} {inComment : Bool}
    (h : .opens name ∈ marksFrom inComment lines) : lowercase name = name := by
  induction lines generalizing inComment with
  | nil => cases h
  | cons raw lines ih =>
    rw [marksFrom] at h
    split at h
    · exact ih h
    · exact ih h
    · dsimp only at h
      split at h
      · cases h
      · rcases List.mem_append.mp h with h | h
        · exact Directive.small_of_scene (Mark.of?_eq_opens (Option.mem_toList.mp h)).1
        · exact ih h

theorem mem_blocks_line {block : Option Block} {text : String} {log : List Entry} {b : Block}
    (h : b ∈ blocks (.line block text :: log)) : b ∈ block ∨ b ∈ blocks log := by
  cases block with
  | none => exact .inr h
  | some c => exact (List.mem_cons.mp h).imp_left fun he => congrArg some he.symm

mutual

theorem FileLog.small {s s' : Ledger} {path : Path} {log : List Entry} :
    FileLog d s path log s' → ∀ b ∈ blocks log, lowercase b.name = b.name
  | .again _ _ _ => nofun
  | .first _ _ _ h => h.small nofun fun _ hm => small_of_opens hm

theorem MarksLog.small {folder : Path} {s s' : Ledger} {block : Option Block} {ms : List Mark}
    {log : List Entry} : MarksLog d folder s block ms log s' →
      (∀ b ∈ block, lowercase b.name = b.name) →
      (∀ name, .opens name ∈ ms → lowercase name = name) →
      ∀ b ∈ blocks log, lowercase b.name = b.name
  | .done, hb, _ => fun b hm => hb b (by rwa [blocks_endOf, Option.mem_toList] at hm)
  | .opens h, hb, hms => by
    intro b hm
    rw [blocks_append, blocks_endOf, List.mem_append, Option.mem_toList] at hm
    have hnew := hms _ List.mem_cons_self
    refine hm.elim (hb b) (h.small ?_ (fun _ hm => hms _ (List.mem_cons_of_mem _ hm)) b)
    rintro _ ⟨⟩
    exact hnew
  | .ends h, hb, hms => by
    intro b hm
    rw [blocks_append, blocks_endOf, List.mem_append, Option.mem_toList] at hm
    exact hm.elim (hb b) (h.small nofun (fun _ hm => hms _ (List.mem_cons_of_mem _ hm)) b)
  | .include hf h, hb, hms => by
    intro b hm
    rw [blocks_append, List.mem_append] at hm
    exact hm.elim (hf.small b) (h.small hb (fun _ hm => hms _ (List.mem_cons_of_mem _ hm)) b)
  | .keep h, hb, hms => by
    intro b hm
    exact (mem_blocks_line hm).elim (hb b)
      (h.small hb (fun _ hm => hms _ (List.mem_cons_of_mem _ hm)) b)

end

variable {log : List Entry} {script : Script} {root : Root} {l : Loader}

def Root.read (d : Disk) : Root → Except LoadError Loader
  | .file path => readFile d d.nodes.length (.start path.parent) path
  | .inMemory text folder =>
    readText (readFile d d.nodes.length) folder "<script>" text (.start folder)

theorem Root.load_eq (root : Root) : root.load d = (root.read d).map Loader.finish := by
  cases root <;> rfl

theorem Root.log_of_read (h : root.read d = .ok l) :
    ∃ log s n, root.HasLog d log ∧ Matches l log s ∧ Spans none 0 n log := by
  cases root with
  | file path =>
    obtain ⟨log, s, hlog, hl⟩ := reads_readFile d _ _ _ _ _ _ (.start _) .start h
    exact ⟨log, s, _, ⟨s, hlog⟩, hl, hlog.spans⟩
  | inMemory text folder =>
    obtain ⟨log, s, hlog, hl⟩ := readText_log (reads_readFile d _) (.start _) .start h
    exact ⟨log, s, _, ⟨s, hlog⟩, hl, hlog.spans nofun⟩

theorem Root.HasLog.unique {log' : List Entry} (h : root.HasLog d log)
    (h' : root.HasLog d log') : log = log' := by
  cases root with
  | file path | inMemory text folder =>
    obtain ⟨_, h⟩ := h
    obtain ⟨_, h'⟩ := h'
    exact (h.unique h').1

theorem Root.HasLog.small (h : root.HasLog d log) :
    ∀ b ∈ blocks log, lowercase b.name = b.name := by
  cases root with
  | file path =>
    obtain ⟨_, h⟩ := h
    exact h.small
  | inMemory text folder =>
    obtain ⟨_, h⟩ := h
    exact h.small nofun fun _ hm => small_of_opens hm

theorem Root.HasLog.faithful (h : root.HasLog d log) (hl : root.load d = .ok script) :
    Faithful script log := by
  rw [Root.load_eq] at hl
  cases hr : root.read d with
  | error e => rw [hr] at hl; cases hl
  | ok l =>
    rw [hr] at hl
    cases hl
    obtain ⟨log', s, n, hlog, hm, hs⟩ := Root.log_of_read hr
    rw [h.unique hlog]
    exact hm.finish hs

theorem Faithful.small (h : Faithful script log)
    (hb : ∀ b ∈ blocks log, lowercase b.name = b.name) :
    ∀ c ∈ script.scenes, lowercase c.name = c.name := by
  intro c hc
  by_cases hn : c.name = topLevel
  · rw [hn]
    decide
  · obtain ⟨b, hlatest, -⟩ := h.content c hc hn
    obtain ⟨hended, hname, -⟩ := spec_of_latest? hlatest
    rw [← hname]
    exact hb b (mem_blocks_of_mem_ended hended)

theorem Root.loaded (h : root.load d = .ok script) : script.Loaded := by
  cases root with
  | file path => exact ⟨d, .inl ⟨path, h⟩⟩
  | inMemory text folder => exact ⟨d, .inr ⟨text, folder, h⟩⟩

theorem Root.exists_log (h : root.load d = .ok script) : ∃ log, root.HasLog d log := by
  rw [Root.load_eq] at h
  cases hr : root.read d with
  | error e => rw [hr] at h; cases h
  | ok l =>
    obtain ⟨log, -, -, hlog, -, -⟩ := Root.log_of_read hr
    exact ⟨log, hlog⟩

theorem Loaded.small (h : script.Loaded) : ∀ c ∈ script.scenes, lowercase c.name = c.name := by
  have hroot {d : Disk} (root : Root) (h : root.load d = .ok script) :
      ∀ c ∈ script.scenes, lowercase c.name = c.name := by
    obtain ⟨log, hlog⟩ := Root.exists_log h
    exact (hlog.faithful h).small hlog.small
  obtain ⟨d, ⟨path, h⟩ | ⟨text, folder, h⟩⟩ := h
  · exact hroot (.file path) h
  · exact hroot (.inMemory text folder) h

end Showrunner.Script
