import Mathlib.Data.List.Basic
import Showrunner.Proofs.Command.Builtin

/-!
What edits of a registry change for a line. Main statement: `find?_edits`.
-/

namespace Showrunner

def CommandEntry.compile (entry : CommandEntry) : Except Pattern.SpecError Command :=
  Registry.compile entry.id entry.pattern entry.handler entry.help

namespace Registry

inductive Edit where
  | register (entry : CommandEntry)
  | insertBefore (before : String) (entry : CommandEntry)
  | remove (id : String)

def Edit.perform : Edit → Editing Unit
  | register entry => Registry.register entry.id entry.pattern entry.handler entry.help
  | insertBefore before entry =>
    Registry.insertBefore before entry.id entry.pattern entry.handler entry.help
  | remove id => discard (Registry.remove id)

def Edit.run (r : Registry) (e : Edit) : Except Pattern.SpecError Unit × Registry :=
  e.perform.run.run r

def Edit.entry? : Edit → Option CommandEntry
  | register entry | insertBefore _ entry => some entry
  | remove _ => none

def edit (r : Registry) (e : Edit) : Registry := (e.run r).2

/-- The commands that stand before the first one with an id, or all if no command has it. -/
def ahead (r : Registry) (id : String) : List Command := r.commands.takeWhile fun c => c.id != id

/-- A line matches what is added. -/
def Fits (entry : CommandEntry) (words : List String) : Prop :=
  ∃ c, entry.compile = .ok c ∧ (c.pattern.matchWords? words).isSome

/-- A call can change what is found for a line. What is added has to match the line, and it counts
at the end if nothing was found so far, and before another command if what was found does not stand
ahead of that one. What is dropped has to be what was found. -/
def Edit.Touches (r : Registry) (words : List String) : Edit → Prop
  | register entry => Fits entry words ∧ r.find? words = none
  | insertBefore before entry => Fits entry words ∧
    ∀ c found, r.find? words = some (c, found) → c ∉ r.ahead before
  | remove id => ∃ c found, r.find? words = some (c, found) ∧ c.id = id

variable {r s : Registry} {words : List String} {c : Command} {found : Pattern.Match} {e : Edit}
  {entry : CommandEntry} {before id : String}

theorem find?_eq_some_iff : r.find? words = some (c, found) ↔
    ∃ earlier later, r.commands = earlier ++ c :: later ∧
      c.pattern.matchWords? words = some found ∧
      ∀ d ∈ earlier, d.pattern.matchWords? words = none := by
  unfold find?
  rw [List.findSome?_eq_some_iff]
  constructor
  · rintro ⟨earlier, d, later, hs, hd, he⟩
    obtain ⟨m, hm, hd⟩ := Option.map_eq_some_iff.mp hd
    cases hd
    exact ⟨earlier, later, hs, hm, fun d hd => Option.map_eq_none_iff.mp (he d hd)⟩
  · rintro ⟨earlier, later, hs, hm, he⟩
    exact ⟨earlier, c, later, hs, by rw [hm]; rfl, fun d hd => Option.map_eq_none_iff.mpr (he d hd)⟩

theorem find?_eq_none_iff :
    r.find? words = none ↔ ∀ c ∈ r.commands, c.pattern.matchWords? words = none := by
  unfold find?
  rw [List.findSome?_eq_none_iff]
  exact forall₂_congr fun c _ => Option.map_eq_none_iff

/-- If a line matches something in front, then something in front is found for it, whatever stands
behind. -/
theorem exists_found_in_front {front : List Command} {d : Command} (hd : d ∈ front)
    (hm : (d.pattern.matchWords? words).isSome) :
    ∃ b found, b ∈ front ∧ ∀ (s : Registry) back, s.commands = front ++ back →
      s.find? words = some (b, found) := by
  have hf : (front.findSome? fun c => (c.pattern.matchWords? words).map (c, ·)).isSome :=
    List.findSome?_isSome_iff.mpr ⟨d, hd, by simpa using hm⟩
  obtain ⟨⟨b, found⟩, hb⟩ := Option.isSome_iff_exists.mp hf
  obtain ⟨a, ha, hab⟩ := List.exists_of_findSome?_eq_some hb
  obtain ⟨_, _, he⟩ := Option.map_eq_some_iff.mp hab
  cases he
  refine ⟨b, found, ha, fun s back hs => ?_⟩
  rw [find?, hs, List.findSome?_append, hb, Option.some_or]

section

variable {front back : List Command} (hs : s.commands = front ++ c :: back)
include hs

theorem find?_added (hm : c.pattern.matchWords? words = some found)
    (hf : ∀ d ∈ front, d.pattern.matchWords? words = none) : s.find? words = some (c, found) :=
  find?_eq_some_iff.mpr ⟨front, back, hs, hm, hf⟩

theorem find?_added_of_none (hr : r.commands = front ++ back)
    (hm : c.pattern.matchWords? words = none) : s.find? words = r.find? words := by
  unfold find?
  rw [hr, hs, List.findSome?_append, List.findSome?_append, List.findSome?_cons, hm]
  rfl

end

/-- What is added splits the commands in those ahead of it and those behind it. -/
theorem placeBefore_eq (before : String) (c : Command) (ds : List Command) :
    placeBefore before c ds =
      ds.takeWhile (fun d => d.id != before) ++ c :: ds.dropWhile (fun d => d.id != before) := by
  induction ds with
  | nil => rfl
  | cons d ds ih =>
    unfold placeBefore
    by_cases h : d.id = before
    · simp [h]
    · simp [h, ih]

theorem edit_register (hc : entry.compile = .ok c) :
    (r.edit (.register entry)).commands = r.commands ++ [c] := by
  have hc : compile entry.id entry.pattern entry.handler entry.help = .ok c := hc
  simp only [edit, Edit.run, Edit.perform, register, hc]
  rfl

theorem edit_insertBefore (hc : entry.compile = .ok c) :
    (r.edit (.insertBefore before entry)).commands =
      r.ahead before ++ c :: r.commands.dropWhile (fun d => d.id != before) := by
  have hc : compile entry.id entry.pattern entry.handler entry.help = .ok c := hc
  simp only [edit, Edit.run, Edit.perform, insertBefore, hc]
  exact placeBefore_eq before c r.commands

theorem run_of_error {err : Pattern.SpecError} (he : e.entry? = some entry)
    (hc : entry.compile = .error err) : e.run r = (.error err, r) := by
  have hc : compile entry.id entry.pattern entry.handler entry.help = .error err := hc
  cases e with
  | register =>
    cases he
    simp only [Edit.run, Edit.perform, register, hc]
    rfl
  | insertBefore =>
    cases he
    simp only [Edit.run, Edit.perform, insertBefore, hc]
    rfl
  | remove => cases he

theorem find?_remove (h : ∀ c found, r.find? words = some (c, found) → c.id ≠ id) :
    (r.edit (.remove id)).find? words = r.find? words := by
  have hs : (r.edit (.remove id)).commands = r.commands.filter fun c => c.id != id := rfl
  cases hf : r.find? words with
  | none =>
    refine find?_eq_none_iff.mpr fun c hc => ?_
    rw [hs] at hc
    exact find?_eq_none_iff.mp hf c (List.mem_of_mem_filter hc)
  | some b =>
    obtain ⟨c, found⟩ := b
    obtain ⟨earlier, later, hr, hm, he⟩ := find?_eq_some_iff.mp hf
    have hkeep : c.id ≠ id := h c found hf
    refine find?_eq_some_iff.mpr ⟨earlier.filter fun c => c.id != id,
      later.filter fun c => c.id != id, ?_, hm, fun d hd => he d (List.mem_of_mem_filter hd)⟩
    simp [hs, hr, hkeep]

/-- A call changes what is found for a line only if it touches the line. -/
theorem find?_edit_of_not_touches (h : ¬ e.Touches r words) :
    (r.edit e).find? words = r.find? words := by
  cases e with
  | register entry =>
    cases hc : entry.compile with
    | error err => rw [edit, run_of_error rfl hc]
    | ok c =>
      have hs := edit_register (r := r) hc
      cases hm : c.pattern.matchWords? words with
      | none => exact find?_added_of_none hs (List.append_nil _).symm hm
      | some found =>
        have hn : r.find? words ≠ none := fun hn => h ⟨⟨c, hc, by rw [hm]; rfl⟩, hn⟩
        obtain ⟨⟨d, m⟩, hd⟩ := Option.ne_none_iff_exists'.mp hn
        obtain ⟨hmem, hdm⟩ := mem_of_find? hd
        have hds : (d.pattern.matchWords? words).isSome := Option.isSome_of_mem hdm
        obtain ⟨b, m', _, hb⟩ := exists_found_in_front hmem hds
        rw [hb r [] (List.append_nil _).symm, hb _ [c] hs]
  | insertBefore before entry =>
    cases hc : entry.compile with
    | error err => rw [edit, run_of_error rfl hc]
    | ok c =>
      have hs : (r.edit (.insertBefore before entry)).commands = _ := edit_insertBefore hc
      have hr : r.commands = r.ahead before ++ r.commands.dropWhile (fun d => d.id != before) :=
        List.takeWhile_append_dropWhile.symm
      cases hm : c.pattern.matchWords? words with
      | none => exact find?_added_of_none hs hr hm
      | some found =>
        -- What was found stands ahead of the new command, and so it is found still.
        have hn : ¬ ∀ c found, r.find? words = some (c, found) → c ∉ r.ahead before :=
          fun hn => h ⟨⟨c, hc, by rw [hm]; rfl⟩, hn⟩
        push Not at hn
        obtain ⟨d, m, hd, hmem⟩ := hn
        have hds : (d.pattern.matchWords? words).isSome :=
          Option.isSome_of_mem (mem_of_find? hd).2
        obtain ⟨b, m', _, hb⟩ := exists_found_in_front hmem hds
        rw [hb r _ hr, hb _ _ hs]
  | remove id => exact find?_remove fun c found hf hid => h ⟨c, found, hf, hid⟩

theorem find?_edit_of_touches (he : e.entry? = some entry) (hc : entry.compile = .ok c)
    (hm : c.pattern.matchWords? words = some found) (h : e.Touches r words) :
    (r.edit e).find? words = some (c, found) := by
  cases e with
  | register =>
    cases he
    exact find?_added (edit_register hc) hm (find?_eq_none_iff.mp h.2)
  | insertBefore before =>
    cases he
    refine find?_added (edit_insertBefore hc) hm fun d hd => ?_
    by_contra hn
    obtain ⟨b, m, hmem, hb⟩ := exists_found_in_front hd (Option.isSome_iff_ne_none.mpr hn)
    exact h.2 b m (hb r _ List.takeWhile_append_dropWhile.symm) hmem
  | remove => cases he

/-- What is found for a line after some calls is what was found before them, unless one of them
touches the line. -/
theorem exists_touches {edits : List Edit}
    (h : (edits.foldl edit r).find? words ≠ r.find? words) :
    ∃ before e later, edits = before ++ e :: later ∧ e.Touches (before.foldl edit r) words := by
  induction edits generalizing r with
  | nil => exact absurd rfl h
  | cons e edits ih =>
    by_cases ht : e.Touches r words
    · exact ⟨[], e, edits, rfl, ht⟩
    · rw [List.foldl_cons, ← find?_edit_of_not_touches ht] at h
      obtain ⟨before, d, later, rfl, hd⟩ := ih h
      exact ⟨e :: before, d, later, rfl, hd⟩

/-- However a registry is edited, the command that is found for a line is the first one to match, in
the order of the ids. A call whose pattern does not compile changes nothing. Any other call changes
what is found for the lines that it touches and for no others: what it adds is then found. -/
theorem find?_edits (r : Registry) (edits : List Edit) (words : List String) :
    (∀ c found, (edits.foldl edit r).find? words = some (c, found) ↔
      ∃ earlier later, (edits.foldl edit r).commands = earlier ++ c :: later ∧
        (edits.foldl edit r).ids = earlier.map (·.id) ++ c.id :: later.map (·.id) ∧
        c.pattern.matchWords? words = some found ∧
        ∀ d ∈ earlier, d.pattern.matchWords? words = none) ∧
    ((edits.foldl edit r).find? words = none ↔
      ∀ c ∈ (edits.foldl edit r).commands, c.pattern.matchWords? words = none) ∧
    (∀ before e later, edits = before ++ e :: later →
      (∀ entry err, e.entry? = some entry → entry.compile = .error err →
        (e.run (before.foldl edit r)).1 = .error err ∧
        (before ++ [e]).foldl edit r = before.foldl edit r) ∧
      (((before ++ [e]).foldl edit r).find? words ≠ (before.foldl edit r).find? words →
        e.Touches (before.foldl edit r) words) ∧
      ∀ entry c found, e.entry? = some entry → entry.compile = .ok c →
        c.pattern.matchWords? words = some found → e.Touches (before.foldl edit r) words →
        ((before ++ [e]).foldl edit r).find? words = some (c, found)) ∧
    ((edits.foldl edit r).find? words ≠ r.find? words →
      ∃ before e later, edits = before ++ e :: later ∧
        e.Touches (before.foldl edit r) words) := by
  refine ⟨fun c found => ?_, find?_eq_none_iff, fun before e later _ => ?_, exists_touches⟩
  · rw [find?_eq_some_iff]
    refine exists₂_congr fun earlier later => and_congr_right fun hs => ?_
    have hids : (edits.foldl edit r).ids = earlier.map (·.id) ++ c.id :: later.map (·.id) := by
      rw [ids, hs, List.map_append, List.map_cons]
    exact (and_iff_right hids).symm
  · rw [List.foldl_append, List.foldl_cons, List.foldl_nil]
    refine ⟨fun entry err he hc => ?_, fun hne => ?_,
      fun entry c found he hc hm ht => find?_edit_of_touches he hc hm ht⟩
    · rw [edit, run_of_error he hc]
      exact ⟨rfl, rfl⟩
    · by_contra ht
      exact hne (find?_edit_of_not_touches ht)

example : ((Registry.builtin.edit (.insertBefore "move"
    ⟨"nudge", "=/move =/gently : >/rest", .echo, ""⟩)).find? ["move", "gently", "a"]).map
      (·.1.id) = some "nudge" := by
  rw [builtin_eq_tabled]
  decide +kernel

end Registry
end Showrunner
