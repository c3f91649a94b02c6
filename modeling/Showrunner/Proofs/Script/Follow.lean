import Showrunner.Proofs.Script.Definitions
import Showrunner.Proofs.Script.Unread
import Showrunner.Proofs.Script.Unstarted

namespace Showrunner.Script

structure Matches (l : Loader) (log : List Entry) (s : Ledger) : Prop where
  visited : l.visited = s.visited
  topLines : l.topLines = linesOf none log
  scenes : Defines (fun b => linesOf (some b) log) (ended log) l.scenes
  known : ∀ b ∈ blocks log, b.number < s.opened ∧ b.name ≠ topLevel

/-- The state of a file tells which block is open, and holds the lines that the log has for it. -/
structure Follows (r : Reading) (log : List Entry) (s : Ledger) (block : Option Block) :
    Prop where
  loader : Matches r.loader log s
  running : r.done = false
  name : r.file.block = block.map (·.name)
  held : r.file.held = block.elim [] fun b => linesOf (some b) log
  known : ∀ b ∈ block, b.number < s.opened ∧ b.name ≠ topLevel
  unended : ∀ b ∈ block, b ∉ ended log

variable {d : Disk} {l l' : Loader} {r r' : Reading} {log rest : List Entry} {s s' : Ledger}
  {block : Option Block} {b : Block} {folder : Path} {name text : String}

theorem visited_define (c : Scene) : (l.define c).visited = l.visited := by
  unfold Loader.define
  split <;> rfl

theorem topLines_define (c : Scene) : (l.define c).topLines = l.topLines := by
  unfold Loader.define
  split <;> rfl

theorem inComment_close : (r.close folder).file.inComment = r.file.inComment := by
  change (closeBlock r.loader r.file folder).2.inComment = _
  unfold closeBlock
  split
  · rfl
  · dsimp only
    split <;> rfl

theorem inComment_keep : (r.keep text).file.inComment = r.file.inComment := by
  unfold Reading.keep
  split <;> rfl

namespace Matches

theorem start (rootFolder : Path) : Matches (.start rootFolder) [] ⟨[], 0⟩ :=
  ⟨rfl, rfl, .nil, nofun⟩

theorem report (h : Matches l log s) (p : Problem) : Matches (l.report p) log s :=
  ⟨h.visited, h.topLines, h.scenes, h.known⟩

theorem endBlock (h : Matches l log s) (hb : b.number < s.opened ∧ b.name ≠ topLevel)
    (hv : l'.visited = l.visited) (ht : l'.topLines = l.topLines)
    (hs : Defines (fun b => linesOf (some b) log) (ended log ++ [b]) l'.scenes) :
    Matches l' (log ++ [.ended b]) s where
  visited := hv.trans h.visited
  topLines := by rw [linesOf_concat_ended, ht, h.topLines]
  scenes := by
    rw [ended_append]
    exact hs.congr fun c _ => linesOf_concat_ended.symm
  known c hc := by
    rw [blocks_append] at hc
    rcases List.mem_append.mp hc with hc | hc
    · exact h.known c hc
    · obtain rfl := List.mem_singleton.mp hc
      exact hb

theorem line (h : Matches l log s) (hb : ∀ b ∈ block, b.number < s.opened ∧ b.name ≠ topLevel)
    (hu : ∀ b ∈ block, b ∉ ended log) (hv : l'.visited = l.visited)
    (ht : l'.topLines = linesOf none (log ++ [.line block text])) (hs : l'.scenes = l.scenes) :
    Matches l' (log ++ [.line block text]) s where
  visited := hv.trans h.visited
  topLines := ht
  scenes := by
    rw [ended_concat_line, hs]
    refine h.scenes.congr fun c hc => ?_
    have hne : block ≠ some c := fun heq => hu c heq hc
    rw [linesOf_append, linesOf_line_ne hne, List.append_nil]
  known c hc := by
    rw [blocks_append] at hc
    rcases List.mem_append.mp hc with hc | hc
    · exact h.known c hc
    · cases block with
      | none => cases hc
      | some b =>
        obtain rfl := List.mem_singleton.mp hc
        exact hb c rfl

end Matches

namespace Follows

theorem report (h : Follows r log s block) (p : Problem) : Follows (r.report p) log s block :=
  ⟨h.loader.report p, h.running, h.name, h.held, h.known, h.unended⟩

theorem comment (h : Follows r log s block) (stillOpen : Bool) :
    Follows { r with file.inComment := stillOpen } log s block :=
  ⟨h.loader, h.running, h.name, h.held, h.known, h.unended⟩

theorem close (h : Follows r log s block) (folder : Path) :
    Follows (r.close folder) (log ++ endOf block) s none := by
  have hname := h.name
  have hheld := h.held
  unfold Reading.close closeBlock
  cases block with
  | none =>
    rw [hname]
    exact ⟨by rw [endOf, Option.toList_none, List.map_nil, List.append_nil]; exact h.loader,
      h.running, h.name, h.held, nofun, nofun⟩
  | some b =>
    rw [hname]
    dsimp only [Option.map_some]
    have hknown := h.known b rfl
    split
    · next hempty =>
      have hlines : linesOf (some b) log = [] := hheld.symm.trans (List.isEmpty_iff.mp hempty)
      have hl : Matches (r.loader.report (.emptyScene b.name)) (log ++ [.ended b]) s :=
        h.loader.endBlock hknown rfl rfl (h.loader.scenes.empty hlines)
      exact ⟨hl, h.running, rfl, rfl, nofun, nofun⟩
    · next hfull =>
      have hlines : linesOf (some b) log ≠ [] := fun hl =>
        hfull (List.isEmpty_iff.mpr (hheld.trans hl))
      have hl : Matches (r.loader.define (.ofContent b.name folder r.file.held))
          (log ++ [.ended b]) s :=
        h.loader.endBlock hknown (visited_define _) (topLines_define _)
          (h.loader.scenes.define rfl hheld hlines rfl)
      exact ⟨hl, h.running, rfl, rfl, nofun, nofun⟩

theorem opens (h : Follows r log s none) (hname : name ≠ topLevel) :
    Follows { r with file.block := some name } log { s with opened := s.opened + 1 }
      (some ⟨s.opened, name⟩) := by
  have hnew : (⟨s.opened, name⟩ : Block) ∉ blocks log := fun hb =>
    Nat.lt_irrefl _ (h.loader.known _ hb).1
  have hl : Matches r.loader log { s with opened := s.opened + 1 } :=
    ⟨h.loader.visited, h.loader.topLines, h.loader.scenes, fun b hb =>
      ⟨Nat.lt_succ_of_lt (h.loader.known b hb).1, (h.loader.known b hb).2⟩⟩
  refine ⟨hl, h.running, rfl, ?_, ?_, ?_⟩
  · exact h.held.trans (linesOf_eq_nil hnew).symm
  · rintro b ⟨⟩
    exact ⟨Nat.lt_succ_self _, hname⟩
  · rintro b ⟨⟩
    exact fun hb => hnew (mem_blocks_of_mem_ended hb)

theorem keep (h : Follows r log s block) (text : String) :
    Follows (r.keep text) (log ++ [.line block text]) s block := by
  have hname := h.name
  cases block with
  | none =>
    have hkeep : r.keep text = { r with loader.topLines := r.loader.topLines ++ [text] } := by
      unfold Reading.keep
      rw [hname]
      rfl
    rw [hkeep]
    refine ⟨h.loader.line h.known h.unended rfl ?_ rfl, h.running, h.name, h.held, nofun, nofun⟩
    rw [linesOf_append, linesOf_line, ← h.loader.topLines]
  | some b =>
    have hkeep : r.keep text = { r with file.held := r.file.held ++ [text] } := by
      unfold Reading.keep
      rw [hname]
      rfl
    rw [hkeep]
    refine ⟨h.loader.line h.known h.unended rfl ?_ rfl, h.running, h.name, ?_, h.known, ?_⟩
    · rw [linesOf_append, linesOf_line_ne (by simp), List.append_nil, h.loader.topLines]
    · have hheld : r.file.held = linesOf (some b) log := h.held
      dsimp only [Option.elim_some]
      rw [linesOf_append, linesOf_line, hheld]
    · intro c hc hended
      rw [ended_concat_line] at hended
      exact h.unended c hc hended

theorem read (h : Follows r log s block) (hl : Matches l (log ++ rest) s')
    (hs : Spans none s.opened s'.opened rest) :
    Follows { r with loader := l } (log ++ rest) s' block := by
  -- The blocks of the included file have higher numbers than the block that is open here.
  have hother : ∀ b ∈ block, b ∉ blocks rest := by
    intro b hb hmem
    rcases hs.numbers b hmem with hnone | ⟨hle, -⟩
    · cases hnone
    · exact absurd hle (Nat.not_le.mpr (h.known b hb).1)
  refine ⟨hl, h.running, h.name, ?_, fun b hb => ?_, fun b hb hmem => ?_⟩
  · cases block with
    | none => exact h.held
    | some b =>
      have hheld : r.file.held = linesOf (some b) log := h.held
      dsimp only [Option.elim_some]
      rw [linesOf_append, linesOf_eq_nil (hother b rfl), List.append_nil, hheld]
  · exact ⟨Nat.lt_of_lt_of_le (h.known b hb).1 hs.le, (h.known b hb).2⟩
  · rw [ended_append] at hmem
    rcases List.mem_append.mp hmem with hmem | hmem
    · exact h.unended b hb hmem
    · exact hother b hb (mem_blocks_of_mem_ended hmem)

end Follows

/-- A file reader under which the loader goes on to match the log, while the disk has files left. -/
def Reads (d : Disk) (unread : Nat) (read : Loader → Path → Except LoadError Loader) : Prop :=
  ∀ l path l' log s, Matches l log s → Unread d unread s.visited → read l path = .ok l' →
    ∃ rest s', FileLog d s path rest s' ∧ Matches l' (log ++ rest) s'

/-- The marks take the reading of a file from one state to another. -/
def Advances (d : Disk) (folder : Path) (s : Ledger) (block : Option Block) (ms : List Mark)
    (log : List Entry) (s' : Ledger) (block' : Option Block) : Prop :=
  ∀ more rest s'', MarksLog d folder s' block' more rest s'' →
    MarksLog d folder s block (ms ++ more) (log ++ rest) s''

section

variable {read : Loader → Path → Except LoadError Loader} {unread number : Nat}
  {source raw : String} {inComment : Bool}

theorem Follows.obey (hread : Reads d unread read) (h : Follows r log s block)
    (hu : Unread d unread s.visited) (hend : Directive.ofLine (stripAnd text) ≠ .endFile)
    (ho : r.obey read folder source number text = .ok r') :
    r'.file.inComment = r.file.inComment ∧ ∃ rest s' block',
      Follows r' (log ++ rest) s' block' ∧ Unread d unread s'.visited ∧
      Advances d folder s block
        (Mark.of? (stripAnd text) (Directive.ofLine (stripAnd text))).toList rest s' block' := by
  have hclosed := h.close folder
  have hidle (p : Problem) : ∃ rest s' block', Follows (r.report p) (log ++ rest) s' block' ∧
      Unread d unread s'.visited ∧ Advances d folder s block [] rest s' block' :=
    ⟨[], s, block, by rw [List.append_nil]; exact h.report p, hu, fun _ _ _ hm => hm⟩
  unfold Reading.obey at ho
  dsimp only at ho
  split at ho
  · next heq =>
    cases ho
    rw [heq]
    exact ⟨rfl, hidle _⟩
  · next name heq =>
    rw [heq]
    by_cases hmain : name = topLevel
    · subst hmain
      cases ho
      exact ⟨inComment_close, endOf block, s, none, hclosed.report _, hu,
        fun _ _ _ hm => .ends hm⟩
    · have hreserved : (name == topLevel) = false := beq_false_of_ne hmain
      have hmark : (Mark.of? (stripAnd text) (.scene (some name))).toList = [.opens name] := by
        rw [Mark.of?, hreserved]
        rfl
      rw [hreserved] at ho
      cases ho
      rw [hmark]
      exact ⟨inComment_close, endOf block, _, _, hclosed.opens hmain, hu,
        fun _ _ _ hm => .opens hm⟩
  · next heq =>
    cases ho
    rw [heq]
    exact ⟨inComment_close, endOf block, s, none, hclosed, hu, fun _ _ _ hm => .ends hm⟩
  · next heq => exact absurd heq hend
  · next heq =>
    cases ho
    rw [heq]
    exact ⟨rfl, hidle _⟩
  · next heq =>
    cases ho
    rw [heq]
    exact ⟨rfl, hidle _⟩
  · next file heq =>
    rw [heq]
    cases hf : read r.loader (folder.join ⟨file⟩) with
    | error e => rw [hf] at ho; cases ho
    | ok l =>
      rw [hf] at ho
      cases ho
      obtain ⟨rest, s', hlog, hl⟩ := hread _ _ _ _ _ h.loader hu hf
      exact ⟨rfl, rest, s', block, h.read hl hlog.spans, hlog.unread hu,
        fun _ _ _ hm => .include hlog hm⟩
  · next heq =>
    cases ho
    rw [heq]
    exact ⟨inComment_keep, _, s, block, h.keep _, hu, fun _ _ _ hm => .keep hm⟩

theorem obey_endFile {m : Type → Type} [Monad m] {read : Loader → Path → m Loader}
    (hend : Directive.ofLine (stripAnd text) = .endFile) :
    r.obey read folder source number text = pure { r with done := true } := by
  unfold Reading.obey
  dsimp only
  rw [hend]

theorem marksFrom_text (hs : screen inComment (Text.trim raw) = .text)
    (hend : Directive.ofLine (stripAnd (Text.trim raw)) ≠ .endFile) (lines : List String) :
    marksFrom inComment (raw :: lines) =
      (Mark.of? (stripAnd (Text.trim raw)) (Directive.ofLine (stripAnd (Text.trim raw)))).toList ++
        marksFrom inComment lines := by
  rw [marksFrom, hs]
  exact if_neg hend

theorem foldlM_step_done {m : Type → Type} [Monad m] [LawfulMonad m]
    {read : Loader → Path → m Loader} (hd : r.done = true) (lines : List (String × Nat)) :
    lines.foldlM (Reading.step read folder source) r = pure r := by
  induction lines with
  | nil => rfl
  | cons line lines ih =>
    have hstep : r.step read folder source line = pure r := if_pos hd
    rw [List.foldlM_cons, hstep, pure_bind]
    exact ih

theorem Follows.foldlM_step (hread : Reads d unread read) {lines : List (String × Nat)}
    (h : Follows r log s block) (hu : Unread d unread s.visited)
    (hf : lines.foldlM (Reading.step read folder source) r = .ok r') :
    ∃ rest s', MarksLog d folder s block (marksFrom r.file.inComment (lines.map (·.1))) rest s' ∧
      Matches (r'.close folder).loader (log ++ rest) s' := by
  induction lines generalizing r log s block with
  | nil =>
    cases hf
    exact ⟨endOf block, s, .done, (h.close folder).loader⟩
  | cons line lines ih =>
    rw [List.foldlM_cons] at hf
    cases hr : r.step read folder source line with
    | error e => rw [hr] at hf; cases hf
    | ok r₁ =>
      rw [hr] at hf
      have hf : lines.foldlM (Reading.step read folder source) r₁ = .ok r' := hf
      have hrun : ¬ r.done = true := by rw [h.running]; nofun
      rw [Reading.step, if_neg hrun] at hr
      dsimp only at hr
      rw [List.map_cons]
      -- Lines set aside leave no mark, and no line is read after the one that ends the file.
      cases hs : screen r.file.inComment (Text.trim line.1) with
      | skip =>
        rw [hs] at hr
        cases hr
        rw [marksFrom, hs]
        exact ih h hu hf
      | comment stillOpen =>
        rw [hs] at hr
        cases hr
        rw [marksFrom, hs]
        exact ih (h.comment stillOpen) hu hf
      | text =>
        rw [hs] at hr
        by_cases hend : Directive.ofLine (stripAnd (Text.trim line.1)) = .endFile
        · rw [obey_endFile hend] at hr
          cases hr
          rw [foldlM_step_done rfl] at hf
          cases hf
          rw [marksFrom, hs]
          dsimp only
          rw [if_pos hend]
          exact ⟨endOf block, s, .done, (h.close folder).loader⟩
        · obtain ⟨hcomment, rest, s', block', h', hu', hadvance⟩ := h.obey hread hu hend hr
          obtain ⟨more, s'', hlog, hl⟩ := ih h' hu' hf
          rw [marksFrom_text hs hend, ← hcomment]
          exact ⟨rest ++ more, s'', hadvance _ _ _ hlog, by rwa [← List.append_assoc]⟩

theorem readText_log (hread : Reads d unread read) (h : Matches l log s)
    (hu : Unread d unread s.visited) (ht : readText read folder source text l = .ok l') :
    ∃ rest s', MarksLog d folder s none (marks text) rest s' ∧ Matches l' (log ++ rest) s' := by
  unfold readText at ht
  dsimp only at ht
  cases hf : (Text.lines text).zipIdx.foldlM (Reading.step read folder source)
      ⟨l, ⟨none, [], false⟩, false⟩ with
  | error e => rw [hf] at ht; cases ht
  | ok r =>
    rw [hf] at ht
    cases ht
    have hstart : Follows ⟨l, ⟨none, [], false⟩, false⟩ log s none :=
      ⟨h, rfl, rfl, rfl, nofun, nofun⟩
    obtain ⟨rest, s', hlog, hl⟩ := hstart.foldlM_step hread hu hf
    rw [List.zipIdx_map_fst] at hlog
    exact ⟨rest, s', hlog, hl⟩

/-- The files that may still be read are enough: the reader never stops for want of them. -/
theorem reads_readFile (d : Disk) (unread : Nat) : Reads d unread (readFile d unread) := by
  induction unread with
  | zero =>
    intro l path l' log s h hu hf
    obtain ⟨place, _, hp, hn, ⟨hv, rfl⟩ | ⟨hv, -, -⟩ | ⟨-, _, _, -, hz, -⟩⟩ := readFile_ok hf
    · rw [h.visited] at hv
      exact ⟨[], s, .again hp hn hv, by rw [List.append_nil]; exact h.report _⟩
    · rw [h.visited] at hv
      obtain ⟨n, hz⟩ := hu.exists_succ hn hv
      cases hz
    · cases hz
  | succ unread ih =>
    intro l path l' log s h hu hf
    obtain ⟨place, _, hp, hn, ⟨hv, rfl⟩ | ⟨-, hz, -⟩ | ⟨hv, text, n, rfl, hz, ht⟩⟩ := readFile_ok hf
    · rw [h.visited] at hv
      exact ⟨[], s, .again hp hn hv, by rw [List.append_nil]; exact h.report _⟩
    · cases hz
    · cases hz
      rw [h.visited] at hv ht
      have hvisit : Matches { l with visited := place :: s.visited } log
          { s with visited := place :: s.visited } :=
        ⟨rfl, h.topLines, h.scenes, h.known⟩
      obtain ⟨rest, s', hlog, hl⟩ := readText_log ih hvisit (hu.visit hn hv) ht
      exact ⟨rest, s', .first hp hn hv hlog, hl⟩

end

end Showrunner.Script
