import Showrunner.Scene.Group

/-!
The groups of a scene as a cut of its lines. Main statement: `groups_iff_segments`, by which the
groups are the only such cut.
-/

namespace Showrunner.Scene

/-- What a line of a scene asks for: it opens or widens a gate, or it is to be performed behind
one. -/
inductive Entry where
  | gate (d : Trigger.Declaration)
  | act (text : String)

/-- A line counts without the white space at its ends, and a blank line counts for nothing. -/
def Entry.ofLine? (line : String) : Option Entry :=
  let text := Text.trim line
  if text = "" then none
  else match Trigger.classify? (Text.words text) with
    | some d => some (.gate d)
    | none => some (.act text)

def Group.entries (g : Group) : List Entry := g.declarations.map .gate ++ g.actions.map .act

/-- The entries cut into groups, so that an action before a trigger line is where one group ends
and the next one begins. -/
structure Segments (entries : List Entry) (groups : List Group) : Prop where
  entries : groups.flatMap Group.entries = entries
  occupied : ∀ g ∈ groups, g.declarations ≠ [] ∨ g.actions ≠ []
  acting : ∀ g ∈ groups.dropLast, g.actions ≠ []
  gated : ∀ g ∈ groups.tail, g.declarations ≠ []

def segmentsFrom (current : Group) : List Entry → List Group
  | [] => if current.isEmpty then [] else [current]
  | .gate d :: es =>
    if current.actions.isEmpty then
      segmentsFrom { current with declarations := current.declarations ++ [d] } es
    else current :: segmentsFrom ⟨[d], []⟩ es
  | .act text :: es => segmentsFrom { current with actions := current.actions ++ [text] } es

/-- Lines are grouped by what they ask for. -/
theorem groupsFrom_eq (current : Group) (lines : List String) :
    groupsFrom current lines = segmentsFrom current (lines.filterMap Entry.ofLine?) := by
  induction lines generalizing current with
  | nil => rfl
  | cons line rest ih =>
    by_cases hb : Text.trim line = ""
    · have hline : Entry.ofLine? line = none := by simp [Entry.ofLine?, hb]
      rw [List.filterMap_cons_none hline, ← ih]
      simp [groupsFrom, hb]
    · cases hc : Trigger.classify? (Text.words (Text.trim line)) with
      | none =>
        have hline : Entry.ofLine? line = some (.act (Text.trim line)) := by
          simp [Entry.ofLine?, hb, hc]
        rw [List.filterMap_cons_some hline, segmentsFrom, ← ih]
        simp [groupsFrom, hb, hc]
      | some d =>
        have hline : Entry.ofLine? line = some (.gate d) := by simp [Entry.ofLine?, hb, hc]
        rw [List.filterMap_cons_some hline, segmentsFrom, ← ih, ← ih]
        simp [groupsFrom, hb, hc]

namespace Segments

variable {g : Group} {gs : List Group} {es : List Entry}

theorem nil : Segments [] [] := ⟨rfl, nofun, nofun, nofun⟩

theorem single (hg : g.declarations ≠ [] ∨ g.actions ≠ []) : Segments g.entries [g] := by
  constructor
  case entries => simp
  case occupied => simpa using hg
  case acting => nofun
  case gated => nofun

theorem cons (hg : g.actions ≠ []) (h : Segments es gs) (hgs : ∀ g ∈ gs, g.declarations ≠ []) :
    Segments (g.entries ++ es) (g :: gs) := by
  constructor
  case entries => rw [List.flatMap_cons, h.entries]
  case occupied => exact List.forall_mem_cons.mpr ⟨.inr hg, h.occupied⟩
  case acting =>
    cases gs with
    | nil => nofun
    | cons g' gs => exact List.forall_mem_cons.mpr ⟨hg, h.acting⟩
  case gated => exact hgs

theorem rest {next : Group} (h : Segments es (g :: next :: gs)) :
    Segments ((next :: gs).flatMap Group.entries) (next :: gs) where
  entries := rfl
  occupied g hg := h.occupied g (List.mem_cons_of_mem _ hg)
  acting g hg := h.acting g (List.mem_cons_of_mem _ hg)
  gated g hg := h.gated g (List.mem_cons_of_mem _ hg)

end Segments

/-- The groups made behind an open group cut its entries and those that follow it. Once the open
group has a trigger line, all of them have. -/
theorem segments_segmentsFrom (current : Group) (es : List Entry) :
    Segments (current.entries ++ es) (segmentsFrom current es) ∧
      (current.declarations ≠ [] → ∀ g ∈ segmentsFrom current es, g.declarations ≠ []) := by
  induction es generalizing current with
  | nil =>
    obtain ⟨ds, as⟩ := current
    by_cases hd : ds = []
    · by_cases ha : as = []
      · subst hd ha
        exact ⟨.nil, nofun⟩
      · have hs : segmentsFrom ⟨ds, as⟩ [] = [⟨ds, as⟩] := by
          simp [segmentsFrom, Group.isEmpty, ha]
        rw [hs, List.append_nil]
        exact ⟨.single (.inr ha), by simp⟩
    · have hs : segmentsFrom ⟨ds, as⟩ [] = [⟨ds, as⟩] := by
        simp [segmentsFrom, Group.isEmpty, hd]
      rw [hs, List.append_nil]
      exact ⟨.single (.inl hd), by simp⟩
  | cons e es ih =>
    cases e with
    | act text =>
      have he : current.entries ++ .act text :: es =
          Group.entries { current with actions := current.actions ++ [text] } ++ es := by
        simp [Group.entries]
      rw [segmentsFrom, he]
      exact ih _
    | gate d =>
      rw [segmentsFrom]
      by_cases ha : current.actions = []
      · have he : current.entries ++ .gate d :: es =
            Group.entries { current with declarations := current.declarations ++ [d] } ++ es := by
          simp [Group.entries, ha]
        rw [if_pos (by simp [ha]), he]
        obtain ⟨hs, hgated⟩ := ih { current with declarations := current.declarations ++ [d] }
        exact ⟨hs, fun _ => hgated (by simp)⟩
      · rw [if_neg (by simp [ha])]
        obtain ⟨hs, hgated⟩ := ih ⟨[d], []⟩
        have hgated := hgated (by simp)
        exact ⟨.cons ha hs hgated, fun hd => List.forall_mem_cons.mpr ⟨hd, hgated⟩⟩

theorem segmentsFrom_actions (ds : List Trigger.Declaration) (as texts : List String)
    (es : List Entry) :
    segmentsFrom ⟨ds, as⟩ (texts.map .act ++ es) = segmentsFrom ⟨ds, as ++ texts⟩ es := by
  induction texts generalizing as with
  | nil => simp
  | cons text texts ih =>
    rw [List.map_cons, List.cons_append, segmentsFrom, ih]
    simp

theorem segmentsFrom_declarations (ds ds' : List Trigger.Declaration) (es : List Entry) :
    segmentsFrom ⟨ds, []⟩ (ds'.map .gate ++ es) = segmentsFrom ⟨ds ++ ds', []⟩ es := by
  induction ds' generalizing ds with
  | nil => simp
  | cons d ds' ih =>
    rw [List.map_cons, List.cons_append, segmentsFrom]
    simp [ih]

theorem segmentsFrom_entries (g : Group) (es : List Entry) :
    segmentsFrom ⟨[], []⟩ (g.entries ++ es) = segmentsFrom g es := by
  rw [Group.entries, List.append_assoc, segmentsFrom_declarations, segmentsFrom_actions]
  rfl

/-- A group that has an action ends at the trigger line of the next one. -/
theorem segmentsFrom_next {g next : Group} (hg : g.actions ≠ []) (hn : next.declarations ≠ [])
    (es : List Entry) : segmentsFrom g (next.entries ++ es) = g :: segmentsFrom next es := by
  obtain ⟨ds, as⟩ := next
  cases ds with
  | nil => exact absurd rfl hn
  | cons d ds =>
    have hne : g.actions.isEmpty = false := by simp [hg]
    have hopen : segmentsFrom g (Group.entries ⟨d :: ds, as⟩ ++ es) =
        g :: segmentsFrom ⟨[d], []⟩ (Group.entries ⟨ds, as⟩ ++ es) := by
      simp [Group.entries, segmentsFrom, hne]
    rw [hopen, Group.entries, List.append_assoc, segmentsFrom_declarations, segmentsFrom_actions]
    rfl

theorem segmentsFrom_flatMap {g : Group} {gs : List Group} {es : List Entry}
    (h : Segments es (g :: gs)) : segmentsFrom g (gs.flatMap Group.entries) = g :: gs := by
  induction gs generalizing g es with
  | nil =>
    have hg : g.declarations ≠ [] ∨ g.actions ≠ [] := h.occupied g List.mem_cons_self
    have hne : g.isEmpty = false := by
      simp only [Group.isEmpty, Bool.and_eq_false_iff, List.isEmpty_eq_false_iff]
      exact hg
    simp [segmentsFrom, hne]
  | cons next gs ih =>
    have hg : g.actions ≠ [] := h.acting g List.mem_cons_self
    have hn : next.declarations ≠ [] := h.gated next List.mem_cons_self
    rw [List.flatMap_cons, segmentsFrom_next hg hn, ih h.rest]

theorem Segments.unique {gs : List Group} {es : List Entry} (h : Segments es gs) :
    segmentsFrom ⟨[], []⟩ es = gs := by
  cases gs with
  | nil =>
    rw [← h.entries]
    rfl
  | cons g gs =>
    rw [← h.entries, List.flatMap_cons, segmentsFrom_entries]
    exact segmentsFrom_flatMap h

/-- The groups of the lines of a scene are the one cut of what the lines ask for in which no group
is empty, each group but the last has an action and each group but the first a trigger line. -/
theorem groups_iff_segments (lines : List String) (gs : List Group) :
    gs = groups lines ↔ Segments (lines.filterMap Entry.ofLine?) gs := by
  rw [groups, groupsFrom_eq]
  constructor
  · rintro rfl
    exact (segments_segmentsFrom ⟨[], []⟩ _).1
  · intro h
    exact h.unique.symm

end Showrunner.Scene
