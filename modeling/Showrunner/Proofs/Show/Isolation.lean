import Showrunner.Proofs.Show.Course
import Showrunner.Proofs.Variables.Ownership

namespace Showrunner.Show

open Variables

variable {s : Show} {a b c : Scene}

def assignAll (s : Show) (assigned : List (String × String)) (scene : String) : Show :=
  assigned.foldl (fun s entry => s.setVar entry.1 entry.2 scene) s

theorem assignAll_eq (s : Show) (assigned : List (String × String)) (scene : String) :
    ∃ vars, s.assignAll assigned scene = { s with vars := vars } := by
  induction assigned generalizing s with
  | nil => exact ⟨s.vars, rfl⟩
  | cons entry assigned ih => exact ih (s.setVar entry.1 entry.2 scene)

theorem get?_assignAll {assigned : List (String × String)} {scene owner name : String}
    (hs : scene ≠ topLevel) (hne : scene ≠ owner) (hplain : ∀ entry ∈ assigned, Plain entry.1)
    (hn : Plain name) :
    (s.assignAll assigned scene).vars.get? name owner = s.vars.get? name owner := by
  induction assigned generalizing s with
  | nil => rfl
  | cons entry assigned ih =>
    have he : Plain entry.1 := hplain entry List.mem_cons_self
    refine (ih fun other ho => hplain other (List.mem_cons_of_mem _ ho)).trans ?_
    exact get?_set he hn hs hne s.vars entry.2

/-- What stopping a scene leaves. -/
theorem stopScene_eq (hc : s.scene? c.name = some c) (ht : c.isTopLevel = false) :
    ∃ scenes, s.stopScene c.name = (true, { s with
      scenes := scenes
      stage := s.stage.removeScene c.name
      vars := s.vars.purge c.name }) := by
  obtain ⟨index, hi⟩ := exists_sceneIndex? hc
  simp only [stopScene, hi, hc, ht, Bool.false_eq_true, if_false, modifyScene]
  exact ⟨_, rfl⟩

/-- What a scene sets under plain names, and that it is stopped, does not change what another
scene reads under them, with one exception: a scene whose name begins with that of the stopped one
and a colon loses its variables. The sprites of other scenes stay in any case. -/
theorem stopScene_isolates (h : Reachable Call.Proper s) (ha : a ∈ s.scenes) (hb : b ∈ s.scenes)
    (hab : a ≠ b) (ht : a.isTopLevel = false) {assigned : List (String × String)}
    (hplain : ∀ entry ∈ assigned, Plain entry.1) :
    ((s.assignAll assigned a.name).stopScene a.name).1 ∧
    (∀ name, Plain name →
      (s.assignAll assigned a.name).vars.get? name b.name = s.vars.get? name b.name ∧
      ((s.assignAll assigned a.name).stopScene a.name).2.vars.get? name b.name =
        if isOwned a.name b.name then s.vars.get? name topLevel else s.vars.get? name b.name) ∧
    (∀ tag sprite, s.stage.sprites.get? tag = some sprite → sprite.scene = b.name →
      ((s.assignAll assigned a.name).stopScene a.name).2.stage.sprites.get? tag =
        some sprite) := by
  have htop : a.name ≠ topLevel := by simpa [Scene.isTopLevel] using ht
  have hfa := h.coherent.scene?_name ha
  have hne : a.name ≠ b.name := by
    intro hn
    rw [hn, h.coherent.scene?_name hb] at hfa
    exact hab (Option.some.inj hfa).symm
  obtain ⟨vars, hv⟩ := s.assignAll_eq assigned a.name
  have hf : (s.assignAll assigned a.name).scene? a.name = some a := by
    rw [hv]
    exact hfa
  obtain ⟨scenes, hs⟩ := stopScene_eq hf ht
  rw [hs]
  refine ⟨rfl, fun name hn => ⟨get?_assignAll htop hne hplain hn, ?_⟩, fun tag sprite hg ho => ?_⟩
  · dsimp only
    rw [get?_purge hn hne, get?_assignAll htop hne hplain hn, get?_assignAll htop htop hplain hn]
  · have hstage : (s.assignAll assigned a.name).stage = s.stage := by rw [hv]
    have hkeep : sprite.scene ≠ a.name := fun he => hne (he.symm.trans ho)
    rw [hstage]
    simp [Stage.removeScene, Table.get?_filter, hg, hkeep]

def songScript : Script :=
  ⟨[.ofContent "intro" ⟨""⟩ ["begin"], .ofContent "intros" ⟨""⟩ ["begin"],
    .ofContent "intro:song" ⟨""⟩ ["begin"]], [.noTopLevel]⟩

theorem loaded_songScript : songScript.Loaded :=
  ⟨.empty, .inr
    ⟨"scene intro\nbegin\nend scene\nscene intros\nbegin\nend scene\nscene intro:song\nbegin",
      ⟨""⟩, rfl⟩⟩

def songShow : Show :=
  [.install songScript, .assign "n" "1" "intros", .assign "n" "2" "intro:song"].foldl Call.run
    (.start (640, 480) 30 Expression.evaluate .still .empty)

theorem reachable_songShow : Reachable Call.Proper songShow := by
  refine (Reachable.start ..).calls fun c hc => ?_
  simp only [List.mem_cons, List.not_mem_nil, or_false] at hc
  rcases hc with rfl | rfl | rfl
  · exact loaded_songScript
  · trivial
  · trivial

theorem stopScene_isolates_intros :
    (((songShow.assignAll [("n", "3"), ("m", "4")] "intro").stopScene "intro").2.vars.get? "n"
      "intros") = some "1" := by
  obtain ⟨a, ha, hna⟩ : ∃ c ∈ songShow.scenes, c.name = "intro" := by decide +kernel
  obtain ⟨b, hb, hnb⟩ : ∃ c ∈ songShow.scenes, c.name = "intros" := by decide +kernel
  have hab : a ≠ b := fun he => by simp [he, hnb] at hna
  have ht : a.isTopLevel = false := by
    unfold Scene.isTopLevel
    rw [hna]
    rfl
  have hplain : ∀ entry ∈ [("n", "3"), ("m", "4")], Plain entry.1 := by decide
  have hother : isOwned "intro" "intros" = false := by decide
  have hn : songShow.vars.get? "n" "intros" = some "1" := by decide +kernel
  have hi := (stopScene_isolates reachable_songShow ha hb hab ht hplain).2.1 "n" (by decide)
  rw [hna, hnb, hother] at hi
  exact hi.2.trans hn

/-- When the first scene stops, the third loses what it had set. -/
theorem stopScene_drops_song :
    isOwned "intro" "intro:song" ∧ songShow.vars.get? "n" "intro:song" = some "2" ∧
    (songShow.stopScene "intro").1 ∧
    (songShow.stopScene "intro").2.vars.get? "n" "intro:song" = none := by
  decide +kernel

end Showrunner.Show
