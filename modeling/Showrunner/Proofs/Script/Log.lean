import Mathlib.Data.List.Perm.Basic
import Showrunner.Script.Loader

namespace Showrunner.Script

/-- What a line of a file comes to. -/
inductive Mark where
  | opens (name : String)
  | ends
  | include (file : String)
  | keep (line : String)
deriving DecidableEq, Repr

/-- A directive with nothing after it comes to nothing. The reserved name opens no block, but ends
the one that is open. -/
def Mark.of? (line : String) : Directive → Option Mark
  | .scene (some name) => some (if name == topLevel then .ends else .opens name)
  | .endScene => some .ends
  | .include (some file) => some (.include file)
  | .content => some (.keep line)
  | .scene none | .include none | .strayEnd | .endFile => none

def marksFrom (inComment : Bool) : List String → List Mark
  | [] => []
  | raw :: rest =>
    match screen inComment (Text.trim raw) with
    | .skip => marksFrom inComment rest
    | .comment stillOpen => marksFrom stillOpen rest
    | .text =>
      let line := stripAnd (Text.trim raw)
      if Directive.ofLine line = .endFile then []
      else (Mark.of? line (Directive.ofLine line)).toList ++ marksFrom inComment rest

def marks (text : String) : List Mark := marksFrom false (Text.lines text)

/-- A block of a scene. Blocks are numbered in the order in which they are opened. -/
structure Block where
  number : Nat
  name : String
deriving DecidableEq, Repr

/-- What happens while a script is read: a line is kept for the block that is open in the file, or
a block ends. -/
inductive Entry where
  | line (block : Option Block) (text : String)
  | ended (block : Block)
deriving DecidableEq, Repr

structure Ledger where
  visited : List Place
  opened : Nat

def endOf (block : Option Block) : List Entry := block.toList.map .ended

mutual

/-- Reading a file comes to a log. A file that was read before is not read again. -/
inductive FileLog (d : Disk) : Ledger → Path → List Entry → Ledger → Prop
  | again {s : Ledger} {path : Path} {place : Place} {text? : Option String}
    (hp : d.resolve? path = some place) (hn : d.node? place = some (.file text?))
    (hv : place ∈ s.visited) : FileLog d s path [] s
  | first {s s' : Ledger} {path : Path} {place : Place} {text : String} {log : List Entry}
    (hp : d.resolve? path = some place) (hn : d.node? place = some (.file (some text)))
    (hv : place ∉ s.visited)
    (h : MarksLog d path.parent { s with visited := place :: s.visited } none (marks text) log s') :
    FileLog d s path log s'

/-- The marks of a file from some place on come to a log, with a block of the file open or none.
An included file has its own blocks. -/
inductive MarksLog (d : Disk) :
    Path → Ledger → Option Block → List Mark → List Entry → Ledger → Prop
  | done {folder : Path} {s : Ledger} {block : Option Block} :
    MarksLog d folder s block [] (endOf block) s
  | opens {folder : Path} {s s' : Ledger} {block : Option Block} {name : String} {ms : List Mark}
    {log : List Entry}
    (h : MarksLog d folder { s with opened := s.opened + 1 } (some ⟨s.opened, name⟩) ms log s') :
    MarksLog d folder s block (.opens name :: ms) (endOf block ++ log) s'
  | ends {folder : Path} {s s' : Ledger} {block : Option Block} {ms : List Mark} {log : List Entry}
    (h : MarksLog d folder s none ms log s') :
    MarksLog d folder s block (.ends :: ms) (endOf block ++ log) s'
  | include {folder : Path} {s s' s'' : Ledger} {block : Option Block} {file : String}
    {ms : List Mark} {log rest : List Entry} (hf : FileLog d s (folder.join ⟨file⟩) log s')
    (h : MarksLog d folder s' block ms rest s'') :
    MarksLog d folder s block (.include file :: ms) (log ++ rest) s''
  | keep {folder : Path} {s s' : Ledger} {block : Option Block} {line : String} {ms : List Mark}
    {log : List Entry} (h : MarksLog d folder s block ms log s') :
    MarksLog d folder s block (.keep line :: ms) (.line block line :: log) s'

end

variable {d : Disk}

mutual

theorem FileLog.unique {s s' s'' : Ledger} {path : Path} {log log' : List Entry} :
    FileLog d s path log s' → FileLog d s path log' s'' → log = log' ∧ s' = s''
  | .again hp hn hv, h => by
    cases h with
    | again => exact ⟨rfl, rfl⟩
    | first hp' _ hv' =>
      rw [hp] at hp'
      cases hp'
      exact absurd hv hv'
  | .first hp hn hv h, h' => by
    cases h' with
    | again hp' _ hv' =>
      rw [hp] at hp'
      cases hp'
      exact absurd hv' hv
    | first hp' hn' _ h' =>
      rw [hp] at hp'
      cases hp'
      rw [hn] at hn'
      cases hn'
      exact h.unique h'

theorem MarksLog.unique {folder : Path} {s s' s'' : Ledger} {block : Option Block}
    {ms : List Mark} {log log' : List Entry} :
    MarksLog d folder s block ms log s' → MarksLog d folder s block ms log' s'' →
      log = log' ∧ s' = s''
  | .done, h => by
    cases h
    exact ⟨rfl, rfl⟩
  | .opens h, .opens h' | .ends h, .ends h' | .keep h, .keep h' => by
    obtain ⟨rfl, rfl⟩ := h.unique h'
    exact ⟨rfl, rfl⟩
  | .include hf h, .include hf' h' => by
    obtain ⟨rfl, rfl⟩ := hf.unique hf'
    obtain ⟨rfl, rfl⟩ := h.unique h'
    exact ⟨rfl, rfl⟩

end

def Entry.block? : Entry → Option Block
  | .line block _ => block
  | .ended block => some block

def Entry.ended? : Entry → Option Block
  | .line _ _ => none
  | .ended block => some block

def Entry.text? : Entry → Option String
  | .line _ text => some text
  | .ended _ => none

def Entry.lineOf? (block : Option Block) : Entry → Option String
  | .line b text => if b = block then some text else none
  | .ended _ => none

def blocks (log : List Entry) : List Block := log.filterMap Entry.block?

def ended (log : List Entry) : List Block := log.filterMap Entry.ended?

def kept (log : List Entry) : List String := log.filterMap Entry.text?

def linesOf (block : Option Block) (log : List Entry) : List String :=
  log.filterMap (Entry.lineOf? block)

section

variable {block : Option Block} {b : Block} {text : String} {log rest : List Entry}

theorem blocks_append : blocks (log ++ rest) = blocks log ++ blocks rest := List.filterMap_append

theorem ended_append : ended (log ++ rest) = ended log ++ ended rest := List.filterMap_append

theorem linesOf_append : linesOf block (log ++ rest) = linesOf block log ++ linesOf block rest :=
  List.filterMap_append

theorem blocks_endOf : blocks (endOf block) = block.toList := by cases block <;> rfl

theorem ended_endOf : ended (endOf block) = block.toList := by cases block <;> rfl

theorem linesOf_line : linesOf block [.line block text] = [text] :=
  List.filterMap_cons_some (if_pos rfl)

theorem linesOf_line_ne {k : Option Block} (h : block ≠ k) : linesOf k [.line block text] = [] :=
  List.filterMap_cons_none (if_neg h)

theorem ended_concat_line : ended (log ++ [.line block text]) = ended log := by
  rw [ended_append]
  exact List.append_nil _

theorem linesOf_concat_ended : linesOf block (log ++ [.ended b]) = linesOf block log := by
  rw [linesOf_append]
  exact List.append_nil _

theorem linesOf_eq_nil (h : b ∉ blocks log) : linesOf (some b) log = [] := by
  rw [linesOf, List.filterMap_eq_nil_iff]
  intro e he
  cases e with
  | ended => rfl
  | line k text =>
    refine if_neg ?_
    rintro rfl
    exact h (List.mem_filterMap.mpr ⟨_, he, rfl⟩)

theorem mem_blocks_of_mem_ended (h : b ∈ ended log) : b ∈ blocks log := by
  obtain ⟨e, he, hb⟩ := List.mem_filterMap.mp h
  cases e with
  | line => cases hb
  | ended => exact List.mem_filterMap.mpr ⟨_, he, hb⟩

end

theorem kept_perm {log : List Entry} {bs : List Block} (h : ∀ b ∈ blocks log, b ∈ bs)
    (hbs : bs.Nodup) :
    (kept log).Perm (linesOf none log ++ bs.flatMap fun b => linesOf (some b) log) := by
  induction log with
  | nil => simp [kept, linesOf]
  | cons e log ih =>
    cases e with
    | ended b => exact ih fun c hc => h c (List.mem_cons_of_mem b hc)
    | line block text =>
      cases block with
      | none => exact (ih h).cons text
      | some b =>
        -- With its block in front of the others, the line is in front of all lines.
        have hb : b ∈ bs := h b List.mem_cons_self
        have hothers : ∀ c ∈ bs.erase b,
            linesOf (some c) (.line (some b) text :: log) = linesOf (some c) log := by
          intro c hc
          have hne : some b ≠ some c := fun heq =>
            hbs.not_mem_erase (Option.some.inj heq ▸ hc)
          exact List.filterMap_cons_none (if_neg hne)
        have hown : linesOf (some b) (.line (some b) text :: log) =
            text :: linesOf (some b) log := List.filterMap_cons_some (if_pos rfl)
        have hblocks : (text :: bs.flatMap fun b => linesOf (some b) log).Perm
            (bs.flatMap fun c => linesOf (some c) (.line (some b) text :: log)) := by
          refine (((List.perm_cons_erase hb).flatMap_right _).cons text).trans ?_
          refine .trans ?_ ((List.perm_cons_erase hb).flatMap_right _).symm
          rw [List.flatMap_cons, List.flatMap_cons, hown, List.flatMap_congr hothers]
          exact .refl _
        have hlog := ih fun c hc => h c (List.mem_cons_of_mem b hc)
        exact (hlog.cons text).trans (List.perm_middle.symm.trans (hblocks.append_left _))

/-- Behind a log of a file in which a block is open or none, all blocks of the log have ended, each
once. But for the open block they are new. -/
structure Spans (block : Option Block) (m n : Nat) (log : List Entry) : Prop where
  le : m ≤ n
  numbers : ∀ b ∈ blocks log, b ∈ block ∨ m ≤ b.number ∧ b.number < n
  closed : ∀ b ∈ blocks log, b ∈ ended log
  open_closed : ∀ b ∈ block, b ∈ ended log
  once : (ended log).Nodup

namespace Spans

variable {block : Option Block} {m k n : Nat} {log rest : List Entry}

theorem endOf (block : Option Block) (n : Nat) : Spans block n n (endOf block) where
  le := Nat.le_refl n
  numbers b hb := .inl (by rwa [blocks_endOf, Option.mem_toList] at hb)
  closed b hb := by rwa [blocks_endOf, ← ended_endOf] at hb
  open_closed b hb := by rwa [ended_endOf, Option.mem_toList]
  once := by
    rw [ended_endOf]
    cases block <;> simp

theorem ended (hb : ∀ b ∈ block, b.number < m) {next : Option Block}
    (hn : ∀ b ∈ next, b.number = m) (hk : m ≤ k) (h : Spans next k n rest)
    (hkn : ∀ b ∈ next, b.number < n) : Spans block m n (Script.endOf block ++ rest) where
  le := Nat.le_trans hk h.le
  numbers b hmem := by
    rw [blocks_append, blocks_endOf, List.mem_append, Option.mem_toList] at hmem
    rcases hmem with hmem | hmem
    · exact .inl hmem
    · rcases h.numbers b hmem with hb | ⟨hl, hu⟩
      · exact .inr ⟨Nat.le_of_eq (hn b hb).symm, hkn b hb⟩
      · exact .inr ⟨Nat.le_trans hk hl, hu⟩
  closed b hmem := by
    rw [blocks_append, blocks_endOf, List.mem_append] at hmem
    rw [ended_append, ended_endOf, List.mem_append]
    exact hmem.imp_right (h.closed b)
  open_closed b hmem := by
    rw [ended_append, ended_endOf, List.mem_append, Option.mem_toList]
    exact .inl hmem
  once := by
    rw [ended_append, ended_endOf, List.nodup_append]
    refine ⟨by cases block <;> simp, h.once, ?_⟩
    rintro b hmem c hc rfl
    have hlt := hb b (Option.mem_toList.mp hmem)
    rcases h.numbers b (mem_blocks_of_mem_ended hc) with hb | ⟨hl, hu⟩
    · have := hn b hb
      omega
    · omega

theorem append (hb : ∀ b ∈ block, b.number < m) (h : Spans none m k log)
    (h' : Spans block k n rest) : Spans block m n (log ++ rest) where
  le := Nat.le_trans h.le h'.le
  numbers b hmem := by
    have := h.le
    have := h'.le
    rw [blocks_append, List.mem_append] at hmem
    rcases hmem with hmem | hmem
    · rcases h.numbers b hmem with hb | ⟨hl, hu⟩
      · cases hb
      · exact .inr ⟨hl, by omega⟩
    · exact (h'.numbers b hmem).imp_right fun ⟨hl, hu⟩ => ⟨by omega, hu⟩
  closed b hmem := by
    rw [blocks_append, List.mem_append] at hmem
    rw [ended_append, List.mem_append]
    exact hmem.imp (h.closed b) (h'.closed b)
  open_closed b hmem := by
    rw [ended_append, List.mem_append]
    exact .inr (h'.open_closed b hmem)
  once := by
    rw [ended_append, List.nodup_append]
    refine ⟨h.once, h'.once, ?_⟩
    rintro b hmem c hc rfl
    rcases h.numbers b (mem_blocks_of_mem_ended hmem) with hb | ⟨hl, hu⟩
    · cases hb
    · rcases h'.numbers b (mem_blocks_of_mem_ended hc) with hmem | ⟨hl', hu'⟩
      · have := hb b hmem
        omega
      · omega

theorem line (h : Spans block m n log) (text : String) :
    Spans block m n (.line block text :: log) where
  le := h.le
  numbers b hmem := by
    cases block with
    | none => exact h.numbers b hmem
    | some c =>
      rcases List.mem_cons.mp hmem with rfl | hmem
      · exact .inl rfl
      · exact h.numbers b hmem
  closed b hmem := by
    cases block with
    | none => exact h.closed b hmem
    | some c =>
      rcases List.mem_cons.mp hmem with rfl | hmem
      · exact h.open_closed b rfl
      · exact h.closed b hmem
  open_closed := h.open_closed
  once := h.once

end Spans

mutual

theorem FileLog.spans {s s' : Ledger} {path : Path} {log : List Entry} :
    FileLog d s path log s' → Spans none s.opened s'.opened log
  | .again _ _ _ => .endOf none _
  | .first _ _ _ h => h.spans (by rintro _ ⟨⟩)

theorem MarksLog.spans {folder : Path} {s s' : Ledger} {block : Option Block} {ms : List Mark}
    {log : List Entry} : MarksLog d folder s block ms log s' →
      (∀ b ∈ block, b.number < s.opened) → Spans block s.opened s'.opened log
  | .done, _ => .endOf block _
  | .opens h, hb => by
    have hs := h.spans (by rintro _ ⟨⟩; exact Nat.lt_succ_self _)
    exact .ended hb (by rintro _ ⟨⟩; rfl) (Nat.le_succ _) hs (by rintro _ ⟨⟩; exact hs.le)
  | .ends h, hb =>
    .ended hb (by rintro _ ⟨⟩) (Nat.le_refl _) (h.spans (by rintro _ ⟨⟩)) (by rintro _ ⟨⟩)
  | .include hf h, hb =>
    .append hb hf.spans (h.spans fun b hm => Nat.lt_of_lt_of_le (hb b hm) hf.spans.le)
  | .keep h, hb => (h.spans hb).line _

end

end Showrunner.Script
