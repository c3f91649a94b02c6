import Mathlib.Data.List.Perm.Basic
import Mathlib.Data.List.Nodup
import Showrunner.Proofs.Script.Log

namespace Showrunner.Script

section

variable (lines : Block → List String) (bs : List Block)

/-- The last block of a name that has lines, of blocks in the order of their ends. -/
def latest? (name : String) : Option Block :=
  (bs.filter fun b => b.name == name && !(lines b).isEmpty).getLast?

/-- The blocks with lines that a later one of the same name replaced. -/
def replaced : List Block :=
  bs.filter fun b => !(lines b).isEmpty && latest? lines bs b.name != some b

/-- The scenes are those that the blocks define, the last one with lines for each name. -/
structure Defines (scenes : List Scene) : Prop where
  distinct : (scenes.map (·.name)).Nodup
  latest : ∀ c ∈ scenes, ∃ b, latest? lines bs c.name = some b ∧ c.content = lines b
  defined : ∀ b ∈ bs, lines b ≠ [] → ∃ c ∈ scenes, c.name = b.name

end

variable {lines : Block → List String} {bs : List Block} {scenes : List Scene} {b : Block}
  {name : String}

theorem latest?_concat : latest? lines (bs ++ [b]) name =
    if b.name = name ∧ lines b ≠ [] then some b else latest? lines bs name := by
  unfold latest?
  rw [List.filter_append]
  split
  · next h => simp [h.1, h.2]
  · next h =>
    rw [List.filter_cons_of_neg (by simpa using h), List.filter_nil, List.append_nil]

theorem spec_of_latest? (h : latest? lines bs name = some b) :
    b ∈ bs ∧ b.name = name ∧ lines b ≠ [] := by
  have hb := List.mem_of_getLast? h
  simpa using hb

theorem latest?_congr {lines' : Block → List String} (h : ∀ b ∈ bs, lines b = lines' b) :
    latest? lines bs name = latest? lines' bs name := by
  unfold latest?
  refine congrArg List.getLast? (List.filter_congr fun b hb => ?_)
  rw [h b hb]

theorem flatMap_filter_lines :
    (bs.filter fun b => !(lines b).isEmpty).flatMap lines = bs.flatMap lines := by
  induction bs with
  | nil => rfl
  | cons b bs ih =>
    by_cases hb : lines b = []
    · rw [List.filter_cons_of_neg (by simp [hb]), List.flatMap_cons, hb, List.nil_append, ih]
    · rw [List.filter_cons_of_pos (by simp [hb]), List.flatMap_cons, List.flatMap_cons, ih]

theorem flatMap_replaced : (replaced lines bs).flatMap lines =
    (bs.filter fun b => !(latest? lines bs b.name == some b)).flatMap lines := by
  rw [← @flatMap_filter_lines lines (bs.filter _), List.filter_filter]
  rfl

namespace Defines

theorem nil : Defines lines [] [] := ⟨.nil, nofun, nofun⟩

theorem congr {lines' : Block → List String} (h : Defines lines bs scenes)
    (hl : ∀ b ∈ bs, lines b = lines' b) : Defines lines' bs scenes where
  distinct := h.distinct
  latest c hc := by
    obtain ⟨b, hb, hcontent⟩ := h.latest c hc
    rw [latest?_congr hl] at hb
    exact ⟨b, hb, hcontent.trans (hl b (spec_of_latest? hb).1)⟩
  defined b hb hne := h.defined b hb (by rwa [hl b hb])

theorem empty (h : Defines lines bs scenes) (hb : lines b = []) :
    Defines lines (bs ++ [b]) scenes where
  distinct := h.distinct
  latest c hc := by
    rw [latest?_concat, if_neg fun hn => hn.2 hb]
    exact h.latest c hc
  defined c hc hne := by
    rcases List.mem_append.mp hc with hc | hc
    · exact h.defined c hc hne
    · rw [List.mem_singleton.mp hc] at hne
      exact absurd hb hne

section

variable {new : Scene} (h : Defines lines bs scenes) (hname : new.name = b.name)
  (hcontent : new.content = lines b) (hb : lines b ≠ [])

include hname hcontent hb in
theorem latest_new :
    ∃ k, latest? lines (bs ++ [b]) new.name = some k ∧ new.content = lines k :=
  ⟨b, by rw [latest?_concat, if_pos ⟨hname.symm, hb⟩], hcontent⟩

include h hname in
theorem latest_old {c : Scene} (hc : c ∈ scenes) (hne : c.name ≠ new.name) :
    ∃ k, latest? lines (bs ++ [b]) c.name = some k ∧ c.content = lines k := by
  rw [latest?_concat, if_neg fun hn => hne (hn.1.symm.trans hname.symm)]
  exact h.latest c hc

include h hname hcontent hb

theorem append (hfresh : ∀ c ∈ scenes, c.name ≠ new.name) :
    Defines lines (bs ++ [b]) (scenes ++ [new]) where
  distinct := by
    rw [List.map_append, List.nodup_append]
    refine ⟨h.distinct, List.nodup_singleton _, ?_⟩
    intro n hn m hm
    obtain ⟨c, hc, rfl⟩ := List.mem_map.mp hn
    rw [List.mem_singleton.mp hm]
    exact hfresh c hc
  latest c hc := by
    rcases List.mem_append.mp hc with hc | hc
    · exact h.latest_old hname hc (hfresh c hc)
    · rw [List.mem_singleton.mp hc]
      exact latest_new hname hcontent hb
  defined k hk hne := by
    rcases List.mem_append.mp hk with hk | hk
    · obtain ⟨e, he, heq⟩ := h.defined k hk hne
      exact ⟨e, List.mem_append_left _ he, heq⟩
    · rw [List.mem_singleton.mp hk]
      exact ⟨new, List.mem_append_right _ (List.mem_singleton_self _), hname⟩

theorem replace (hany : ∃ c ∈ scenes, c.name = new.name) :
    Defines lines (bs ++ [b]) (scenes.map fun c => if c.name == new.name then new else c) := by
  have hkeep (c : Scene) : (if c.name == new.name then new else c).name = c.name := by
    split
    · next h => exact (eq_of_beq h).symm
    · rfl
  refine ⟨?_, fun c hc => ?_, fun k hk hne => ?_⟩
  · rw [List.map_map]
    exact (List.map_congr_left fun c _ => hkeep c) ▸ h.distinct
  · obtain ⟨e, he, rfl⟩ := List.mem_map.mp hc
    split
    · exact latest_new hname hcontent hb
    · next heq => exact h.latest_old hname he fun hn => heq (beq_iff_eq.mpr hn)
  · have hscene : ∃ e ∈ scenes, e.name = k.name := by
      rcases List.mem_append.mp hk with hk | hk
      · exact h.defined k hk hne
      · rwa [List.mem_singleton.mp hk, ← hname]
    obtain ⟨e, he, heq⟩ := hscene
    exact ⟨_, List.mem_map_of_mem he, (hkeep e).trans heq⟩

theorem define {l : Loader} (hs : l.scenes = scenes) :
    Defines lines (bs ++ [b]) (l.define new).scenes := by
  subst hs
  unfold Loader.define
  split
  · next hany =>
    obtain ⟨c, hc, heq⟩ := List.any_eq_true.mp hany
    exact h.replace hname hcontent hb ⟨c, hc, eq_of_beq heq⟩
  · next hany =>
    exact h.append hname hcontent hb fun c hc hn =>
      hany (List.any_eq_true.mpr ⟨c, hc, beq_iff_eq.mpr hn⟩)

end

theorem filterMap_latest? (h : Defines lines bs scenes) (hbs : bs.Nodup) :
    (scenes.filterMap fun c => latest? lines bs c.name).Perm
      (bs.filter fun b => latest? lines bs b.name == some b) := by
  have hdistinct : (scenes.filterMap fun c => latest? lines bs c.name).Nodup := by
    have hn : (scenes.map (·.name)).filterMap (latest? lines bs) =
        scenes.filterMap fun c => latest? lines bs c.name := List.filterMap_map
    rw [← hn]
    refine h.distinct.filterMap fun n m b hb hb' => ?_
    exact (spec_of_latest? hb).2.1.symm.trans (spec_of_latest? hb').2.1
  refine (List.perm_ext_iff_of_nodup hdistinct (hbs.filter _)).mpr fun b => ?_
  rw [List.mem_filterMap, List.mem_filter, beq_iff_eq]
  constructor
  · rintro ⟨c, -, hc⟩
    obtain ⟨hb, hname, -⟩ := spec_of_latest? hc
    exact ⟨hb, hname ▸ hc⟩
  · rintro ⟨hb, hlatest⟩
    obtain ⟨c, hc, hname⟩ := h.defined b hb (spec_of_latest? hlatest).2.2
    exact ⟨c, hc, hname ▸ hlatest⟩

theorem flatMap_content (h : Defines lines bs scenes) :
    scenes.flatMap (·.content) =
      (scenes.filterMap fun c => latest? lines bs c.name).flatMap lines := by
  rw [List.filterMap_eq_flatMap_toList, List.flatMap_assoc]
  refine List.flatMap_congr fun c hc => ?_
  obtain ⟨b, hb, hcontent⟩ := h.latest c hc
  rw [hb, hcontent]
  simp

/-- Each line of a block is in one scene, unless its block was replaced. -/
theorem perm (h : Defines lines bs scenes) (hbs : bs.Nodup) :
    (bs.flatMap lines).Perm
      (scenes.flatMap (·.content) ++ (replaced lines bs).flatMap lines) := by
  have hsplit := List.filter_append_perm (fun b => latest? lines bs b.name == some b) bs
  refine (hsplit.flatMap_right lines).symm.trans ?_
  rw [List.flatMap_append, ← flatMap_replaced, h.flatMap_content]
  exact ((h.filterMap_latest? hbs).flatMap_right lines).symm.append_right _

end Defines

end Showrunner.Script
