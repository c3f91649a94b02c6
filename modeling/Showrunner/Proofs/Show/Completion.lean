import Showrunner.Proofs.Show.Deeds

namespace Showrunner

namespace Slot

def Current (k : Slot) (s : Show) : Prop := s.generation? k.index = some k.generation

instance (k : Slot) (s : Show) : Decidable (k.Current s) := inferInstanceAs (Decidable (_ = _))

def Completed (k : Slot) (s : Show) : Prop :=
  ∃ c a, s.scenes[k.index]? = some c ∧ c.generation = k.generation ∧
    c.actions[k.position]? = some a ∧ a.complete

variable {k : Slot} {s t : Show}

theorem Completed.current (h : k.Completed s) : k.Current s := by
  obtain ⟨c, -, hc, hg, -⟩ := h
  rw [Current, Show.generation?, hc, Option.map_some, hg]

theorem completed_congr (h : t.scenes = s.scenes) : k.Completed t ↔ k.Completed s := by
  unfold Completed
  rw [h]

theorem completed_noteAt {index position : Nat} {p : Show.Performance} :
    k.Completed (s.noteAt index position p) ↔ k.Completed s ∨
      k.index = index ∧ k.position = position ∧ p.complete ∧ ∃ c, s.scenes[index]? = some c ∧
        c.generation = k.generation ∧ position < c.actions.length := by
  obtain ⟨i, g, j⟩ := k
  unfold Completed Show.noteAt Show.modifyScene
  by_cases hi : index = i
  · subst hi
    cases hc : s.scenes[index]? with
    | none => simp [hc]
    | some c =>
      by_cases hj : position = j
      · subst hj
        cases ha : c.actions[position]? with
        | none =>
          have hl := List.getElem?_eq_none_iff.mp ha
          simp [hc, ha]
          omega
        | some a =>
          have hl := (List.getElem?_eq_some_iff.mp ha).1
          simp [hc, hl, Show.noteAction]
          tauto
      · simp [hc, hj, Ne.symm hj]
  · simp [hi, Ne.symm hi]

end Slot

namespace Show

variable {s t u : Show} {d : Deed} {ds es : List Deed}

def Precedes (g g' : Option Nat) : Prop := Option.Rel (· ≤ ·) g g'

namespace Precedes

variable {g g' g'' : Option Nat}

theorem refl (g : Option Nat) : Precedes g g := by
  cases g with
  | none => exact .none
  | some n => exact .some (Nat.le_refl n)

theorem trans (h : Precedes g g') (k : Precedes g' g'') : Precedes g g'' := by
  cases h with
  | none => exact k
  | some hle =>
    cases k with
    | some hle' => exact .some (Nat.le_trans hle hle')

theorem antisymm (h : Precedes g g') (k : Precedes g' g) : g = g' := by
  cases h with
  | none => rfl
  | some hle =>
    cases k with
    | some hle' => exact congrArg some (Nat.le_antisymm hle hle')

end Precedes

/-- What the deeds between two shows tell about the completion of actions. -/
structure Told (s : Show) (ds : List Deed) (t : Show) : Prop where
  mono : ∀ i, Precedes (s.generation? i) (t.generation? i)
  completed : ∀ k : Slot, k.Current t →
    (k.Completed t ↔ k.Completed s ∨ ∃ d ∈ ds, d.slot = k ∧ d.outcome.complete)
  within : ∀ d ∈ ds, Precedes (s.generation? d.index) (some d.generation) ∧
    Precedes (some d.generation) (t.generation? d.index)
  fresh : ∀ d ∈ ds, ¬ d.slot.Completed s
  once : ds.Pairwise fun d e => d.outcome.complete → d.slot ≠ e.slot

namespace Told

theorem current (h : Told s ds t) {k : Slot} (hk : k.Current t)
    (hs : Precedes (some k.generation) (s.generation? k.index)) : k.Current s := by
  have hm := h.mono k.index
  rw [hk] at hm
  exact hm.antisymm hs

theorem completed_of_mem (h : Told s ds t) (hd : d ∈ ds) (hc : d.outcome.complete)
    (hk : d.slot.Current t) : d.slot.Completed t :=
  (h.completed _ hk).mpr (.inr ⟨d, hd, rfl, hc⟩)

section

variable (h : Told s ds t) (k : Told t es u)
include h k

theorem current_of_mem {e : Deed} (hd : d ∈ ds) (he : e ∈ es) (heq : d.slot = e.slot) :
    d.slot.Current t := by
  have hafter := (h.within d hd).2
  have hbefore := (k.within e he).1
  rw [← show d.index = e.index from congrArg Slot.index heq,
    ← show d.generation = e.generation from congrArg Slot.generation heq] at hbefore
  exact hbefore.antisymm hafter

theorem completed_trans {slot : Slot} (hk : slot.Current u) :
    slot.Completed u ↔
      slot.Completed s ∨ ∃ d ∈ ds ++ es, d.slot = slot ∧ d.outcome.complete := by
  have hs : slot.Completed s → slot.Completed t := by
    intro hs
    have hm := h.mono slot.index
    rw [hs.current] at hm
    exact (h.completed slot (k.current hk hm)).mpr (.inl hs)
  have hds : (∃ d ∈ ds, d.slot = slot ∧ d.outcome.complete) → slot.Completed t := by
    rintro ⟨d, hd, rfl, hc⟩
    exact h.completed_of_mem hd hc (k.current hk (h.within d hd).2)
  have ht : slot.Completed t →
      slot.Completed s ∨ ∃ d ∈ ds, d.slot = slot ∧ d.outcome.complete :=
    fun ht => (h.completed slot ht.current).mp ht
  rw [k.completed slot hk]
  constructor
  · rintro (hc | ⟨e, he, hslot⟩)
    · exact (ht hc).imp_right fun ⟨d, hd, hslot⟩ => ⟨d, List.mem_append_left _ hd, hslot⟩
    · exact .inr ⟨e, List.mem_append_right _ he, hslot⟩
  · rintro (hc | ⟨d, hd, hslot⟩)
    · exact .inl (hs hc)
    · rcases List.mem_append.mp hd with hd | hd
      · exact .inl (hds ⟨d, hd, hslot⟩)
      · exact .inr ⟨d, hd, hslot⟩

theorem trans : Told s (ds ++ es) u where
  mono i := (h.mono i).trans (k.mono i)
  completed _ hk := h.completed_trans k hk
  within d hd := by
    rcases List.mem_append.mp hd with hd | hd
    · exact ⟨(h.within d hd).1, (h.within d hd).2.trans (k.mono _)⟩
    · exact ⟨(h.mono _).trans (k.within d hd).1, (k.within d hd).2⟩
  fresh d hd hs := by
    rcases List.mem_append.mp hd with hd | hd
    · exact h.fresh d hd hs
    · have hm := h.mono d.index
      rw [show s.generation? d.index = some d.generation from hs.current] at hm
      have hk : d.slot.Current t := (k.within d hd).1.antisymm hm
      exact k.fresh d hd ((h.completed _ hk).mpr (.inl hs))
  once := by
    refine List.pairwise_append.mpr ⟨h.once, k.once, fun d hd e he hc heq => ?_⟩
    have hk := h.current_of_mem k hd he heq
    exact k.fresh e he (heq ▸ h.completed_of_mem hd hc hk)

end

end Told

namespace Quiet

theorem precedes (h : Quiet s t) (i : Nat) :
    Precedes (s.generation? i) (t.generation? i) := by
  unfold generation?
  cases hc : s.scenes[i]? with
  | none =>
    rw [List.getElem?_eq_none_iff, ← h.length, ← List.getElem?_eq_none_iff] at hc
    rw [hc]
    exact .none
  | some c =>
    obtain ⟨d, hd, ⟨hg, -⟩ | ⟨hlt, -⟩⟩ := h.scene i c hc
    · rw [hd, Option.map_some, Option.map_some, hg]
      exact .refl _
    · rw [hd]
      exact .some (Nat.le_of_lt hlt)

theorem completed_iff (h : Quiet s t) {k : Slot} (hk : k.Current t) :
    k.Completed t ↔ k.Completed s := by
  obtain ⟨e, he, hek⟩ := Option.map_eq_some_iff.mp hk
  have hi : k.index < s.scenes.length := by
    rw [← h.length]
    exact (List.getElem?_eq_some_iff.mp he).1
  obtain ⟨d, hd, hcd⟩ := h.scene k.index _ (List.getElem?_eq_getElem hi)
  rw [he] at hd
  cases hd
  unfold Slot.Completed
  rw [he, List.getElem?_eq_getElem hi]
  rcases hcd with ⟨hg, ha⟩ | ⟨hlt, hfresh⟩
  · simp [hg, ha]
  · refine iff_of_false ?_ ?_
    · rintro ⟨_, a, ⟨⟩, -, ha, hc⟩
      rw [hfresh a (List.mem_of_getElem? ha)] at hc
      cases hc
    · rintro ⟨_, a, ⟨⟩, hg, -⟩
      omega

theorem told (h : Quiet s t) : Told s [] t where
  mono := h.precedes
  completed k hk := by simp [h.completed_iff hk]
  within _ hd := absurd hd List.not_mem_nil
  fresh _ hd := absurd hd List.not_mem_nil
  once := .nil

end Quiet

theorem generation?_noteAt (s : Show) (index position : Nat) (p : Performance) (i : Nat) :
    (s.noteAt index position p).generation? i = s.generation? i := by
  by_cases hi : index = i <;> simp [generation?, noteAt, modifyScene, hi, Function.comp_def]

namespace Does

theorem quiet (h : Does s d t) : Quiet s d.after := by
  obtain ⟨c, -, -, -, hact⟩ := h.scene
  have he := upheld_evolves.act d.before d.text c.name (by rw [h.before]; exact h.registry)
  have ha : s.Evolves d.before := by
    rw [h.before]
    exact .of_eq rfl rfl rfl
  rw [hact] at he
  exact .of_evolves (ha.trans he)

theorem generation? (h : Does s d t) (i : Nat) : t.generation? i = d.after.generation? i := by
  rw [h.noted]
  split
  · exact generation?_noteAt _ _ _ _ i
  · rfl

theorem current (h : Does s d t) : d.slot.Current s := by
  obtain ⟨c, hc, hg, -⟩ := h.scene
  rw [Slot.Current, Deed.slot, Show.generation?, hc, Option.map_some, hg]

theorem not_completed (h : Does s d t) : ¬ d.slot.Completed s := by
  obtain ⟨c, hc, -, ⟨a, ha, hincomplete, -⟩, -⟩ := h.scene
  rintro ⟨c', a', hc', -, ha', hcomplete⟩
  rw [show d.slot.index = d.index from rfl, hc] at hc'
  cases hc'
  rw [show d.slot.position = d.position from rfl, ha] at ha'
  cases ha'
  rw [hincomplete] at hcomplete
  cases hcomplete

theorem exists_action (h : Does s d t) (hg : d.after.generation? d.index = some d.generation) :
    ∃ c, d.after.scenes[d.index]? = some c ∧ c.generation = d.generation ∧
      d.position < c.actions.length := by
  obtain ⟨c, hc, hcg, ⟨a, ha, -⟩, -⟩ := h.scene
  obtain ⟨e, he, hec⟩ := h.quiet.scene d.index c hc
  rw [Show.generation?, he] at hg
  have heg : e.generation = d.generation := Option.some.inj hg
  rcases hec with ⟨-, hactions⟩ | ⟨hlt, -⟩
  · exact ⟨e, he, heg, hactions ▸ (List.getElem?_eq_some_iff.mp ha).1⟩
  · omega

theorem completed_iff (h : Does s d t) {k : Slot} (hk : k.Current t) :
    k.Completed t ↔ k.Completed s ∨ d.slot = k ∧ d.outcome.complete := by
  have hka : k.Current d.after := (h.generation? k.index).symm.trans hk
  rw [← h.quiet.completed_iff hka, h.noted]
  split
  · next hg =>
    rw [Slot.completed_noteAt]
    refine or_congr_right ⟨?_, ?_⟩
    · rintro ⟨hindex, hposition, hc, c, hscene, hgeneration, -⟩
      rw [Show.generation?, hscene] at hg
      have hcg : c.generation = d.generation := Option.some.inj hg
      refine ⟨?_, hc⟩
      rw [Deed.slot, ← hindex, ← hposition, ← hcg, hgeneration]
    · rintro ⟨rfl, hc⟩
      exact ⟨rfl, rfl, hc, h.exists_action hg⟩
  · next hg =>
    have hother : d.slot ≠ k := by
      rintro rfl
      exact hg hka
    simp [hother]

theorem told (h : Does s d t) : Told s [d] t where
  mono i := by
    rw [h.generation? i]
    exact h.quiet.precedes i
  completed k hk := by simp [h.completed_iff hk]
  within e he := by
    obtain rfl := List.mem_singleton.mp he
    have hs : s.generation? e.index = some e.generation := h.current
    have hm := h.quiet.precedes e.index
    rw [← h.generation?, hs] at hm
    exact ⟨hs ▸ .refl _, hm⟩
  fresh e he := by
    obtain rfl := List.mem_singleton.mp he
    exact h.not_completed
  once := List.pairwise_singleton ..

end Does

theorem Chronicle.told (h : Chronicle s ds t) : Told s ds t := by
  induction h with
  | refl s => exact (Quiet.of_scenes rfl).told
  | quiet hq _ ih => exact hq.told.trans ih
  | deed hd _ ih => exact hd.told.trans ih

theorem incomplete_startScene {name : String} {c : Scene} (hb : s.registry = .builtin)
    (hc : s.scene? name = some c) (hroom : s.startDepth < maxStartDepth) :
    (s.startScene name).1 ∧ ∃ (index : Nat) (e : Scene), s.scenes[index]? = some c ∧
      (s.startScene name).2.scenes[index]? = some e ∧ c.generation < e.generation ∧
      ∀ a ∈ e.actions, a.complete = false := by
  obtain ⟨index, hi⟩ := exists_sceneIndex? hc
  obtain ⟨room, hr⟩ := exists_room hroom
  have hat := getElem?_of_sceneIndex? hi hc
  have hrebuilt := Rebuilt.rebuild hat
  obtain ⟨d, hd, -, -, -, hg, -, hfresh⟩ := hrebuilt.scene
  unfold startScene
  rw [hr]
  unfold startWithin
  rw [hi, hc]
  have hlines := upheld_evolves.beginWith
    (s := { s.rebuild index c with startDepth := (s.rebuild index c).startDepth + 1 })
    (fun s name h => upheld_evolves.startWithin room s name h) index c.name
    ((s.rebuild index c).generation? index) (beginLines (Scene.groups c.content))
    (hrebuilt.registry.trans hb)
  obtain ⟨e, he, hde⟩ := (upheld_evolves.nest hlines).scene index d hd
  refine ⟨rfl, index, e, hat, he, ?_⟩
  rcases hde.run with ⟨hsame, -, -, hactions⟩ | ⟨hlater, hanew⟩
  · exact ⟨by omega, fun a ha => (hfresh.actions a (hactions ▸ ha)).2⟩
  · exact ⟨by omega, fun a ha => (hanew.actions a ha).2⟩

/-- As long as no scenes are installed, an action of a scene in a generation of it is complete just
if it was so before or a deed of it came out complete. So it stays complete while the generation
lasts. An action that is complete is not performed again, whatever fires. When a scene is started,
nothing in it is complete. -/
theorem completed_once (hb : s.registry = .builtin) {calls : List Call}
    (hc : ∀ c ∈ calls, c.KeepsScenes) :
    (∀ k : Slot, k.Current (calls.foldl Call.run s) →
      (k.Completed (calls.foldl Call.run s) ↔
        k.Completed s ∨ ∃ d ∈ s.deeds calls, d.slot = k ∧ d.outcome.complete)) ∧
    (∀ earlier d later, s.deeds calls = earlier ++ d :: later →
      (∀ k : Slot, k.Current d.before →
        (k.Completed d.before ↔
          k.Completed s ∨ ∃ e ∈ earlier, e.slot = k ∧ e.outcome.complete)) ∧
      d.slot.Current d.before ∧ ¬ d.slot.Completed d.before ∧ ¬ d.slot.Completed s ∧
      (d.outcome.complete → ∀ e ∈ later, e.slot ≠ d.slot)) ∧
    ∀ (t : Show) name c, t.registry = .builtin → t.scene? name = some c →
      t.startDepth < maxStartDepth →
      (t.startScene name).1 ∧ ∃ (index : Nat) (e : Scene), t.scenes[index]? = some c ∧
        (t.startScene name).2.scenes[index]? = some e ∧ c.generation < e.generation ∧
        ∀ a ∈ e.actions, a.complete = false := by
  have hcalls := (chronicle_calls hc hb).1
  refine ⟨hcalls.told.completed, fun earlier d later hds => ?_,
    fun t name c hb hc hroom => incomplete_startScene hb hc hroom⟩
  rw [hds] at hcalls
  have htold := hcalls.told
  obtain ⟨u, v, hearlier, hd, -⟩ := hcalls.split
  have hscenes : d.before.scenes = u.scenes := by rw [hd.before]; rfl
  have hcurrent (k : Slot) : k.Current d.before ↔ k.Current u := by
    unfold Slot.Current Show.generation?
    rw [hscenes]
  refine ⟨fun k hk => ?_, (hcurrent _).mpr hd.current, ?_, ?_, fun hcomplete e he => ?_⟩
  · rw [Slot.completed_congr hscenes]
    exact hearlier.told.completed k ((hcurrent k).mp hk)
  · rw [Slot.completed_congr hscenes]
    exact hd.not_completed
  · exact htold.fresh d (by simp)
  · have honce := (List.pairwise_append.mp htold.once).2.1
    exact Ne.symm ((List.pairwise_cons.mp honce).1 e he hcomplete)

def folderScript : Script := ⟨[.ofContent topLevel ⟨""⟩ ["on click", "using media"]], []⟩

def folderShow : Show :=
  [.install folderScript, .begin ⟨0, .midnight⟩].foldl Call.run
    (.start (640, 480) 30 Expression.evaluate .still .empty)

def twoClicks : List Call :=
  [.frame ⟨40, .midnight⟩ (Input.clickAt {} 0 0), .frame ⟨80, .midnight⟩ (Input.clickAt {} 0 0)]

def clickedShow : Show := twoClicks.foldl Call.run folderShow

/-- The first click completes the action and the second does not perform it again. Once the top
level is started anew, the action waits for a click again. -/
theorem completed_once_click :
    (∃ d, folderShow.deeds twoClicks = [d] ∧ d.slot = ⟨0, 1, 0⟩ ∧ ¬ d.slot.Completed d.before ∧
      d.slot.Completed clickedShow) ∧
    ∃ e : Scene, (clickedShow.startScene topLevel).2.scenes = [e] ∧ e.generation = 2 ∧
      e.actions.length = 1 ∧ ∀ a ∈ e.actions, a.complete = false := by
  have hb : folderShow.registry = .builtin := rfl
  have hc : ∀ c ∈ twoClicks, c.KeepsScenes := by simp [twoClicks, Call.KeepsScenes]
  obtain ⟨hiff, hdeeds, hrestart⟩ := completed_once hb hc
  have hone : (folderShow.deeds twoClicks).map (fun d => (d.slot, d.outcome.complete)) =
      [(⟨0, 1, 0⟩, true)] := by decide +kernel
  obtain ⟨d, hd, hdone⟩ := List.map_eq_singleton_iff.mp hone
  obtain ⟨hslot, hcomplete⟩ := Prod.mk.inj hdone
  obtain ⟨hcurrent, hfound, hroom⟩ : Slot.Current ⟨0, 1, 0⟩ clickedShow ∧
      (clickedShow.scene? topLevel).isSome ∧ clickedShow.startDepth < maxStartDepth := by
    decide +kernel
  refine ⟨⟨d, hd, hslot, (hdeeds [] d [] hd).2.2.1, ?_⟩, ?_⟩
  · exact (hiff _ (hslot ▸ hcurrent)).mpr (.inr ⟨d, by simp [hd], rfl, hcomplete⟩)
  have hanew : (clickedShow.startScene topLevel).2.scenes.map
      (fun e => (e.generation, e.actions.length)) = [(2, 1)] := by decide +kernel
  obtain ⟨c, hscene⟩ := Option.isSome_iff_exists.mp hfound
  obtain ⟨e, he, hrun⟩ := List.map_eq_singleton_iff.mp hanew
  obtain ⟨hgeneration, hlength⟩ := Prod.mk.inj hrun
  obtain ⟨-, index, f, -, hf, -, hfresh⟩ :=
    hrestart clickedShow topLevel c (chronicle_calls hc hb).2 hscene hroom
  rw [he] at hf
  obtain rfl := List.mem_singleton.mp (List.mem_of_getElem? hf)
  exact ⟨f, he, hgeneration, hlength, hfresh⟩

end Show
end Showrunner
