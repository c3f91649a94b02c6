import Showrunner.Proofs.Show.References

namespace Showrunner

/-- Scripts that were read are installed, and nothing else is done. -/
def Call.Installs : Call → Prop
  | install script => script.Loaded
  | _ => False

theorem Call.Installs.proper {c : Call} (h : c.Installs) : c.Proper := by
  cases c with
  | install => exact h
  | _ => trivial

namespace Show

/-- The scenes have different names, and the sprites belong to scenes that run. -/
structure Housed (s : Show) : Prop where
  distinct : (s.scenes.map (·.name)).Nodup
  owners : ∀ tag name, s.stage.owner? tag = some name → s.Runs name

variable {s t : Show} {e : Event} {es : List Event} {name : String}

theorem Still.names (h : Still s t) : t.scenes.map (·.name) = s.scenes.map (·.name) := by
  have hn := congrArg (List.map Prod.fst) h.roster
  unfold Show.roster at hn
  rwa [List.map_map, List.map_map] at hn

theorem Still.runs_iff (h : Still s t) : t.Runs name ↔ s.Runs name := by
  rw [Runs, Runs, h.roster]

theorem Rebuilt.runs_iff {index : Nat} {c : Scene} (h : Rebuilt s index c t)
    (hc : s.scenes[index]? = some c) : t.Runs name ↔ s.Runs name ∨ name = c.name := by
  obtain ⟨d, hd, hn, _, _, _, he, _⟩ := h.scene
  have hruns : t.Runs c.name := Show.runs_iff.mpr ⟨index, d, hd, hn, he⟩
  constructor
  · intro hr
    obtain ⟨i, b, hi, rfl, hb⟩ := Show.runs_iff.mp hr
    by_cases hx : index = i
    · rw [← hx, hd] at hi
      cases hi
      exact .inr hn
    · rw [h.others i hx] at hi
      exact .inl (Show.runs_iff.mpr ⟨i, b, hi, rfl, hb⟩)
  · rintro (hr | rfl)
    · obtain ⟨i, b, hi, rfl, hb⟩ := Show.runs_iff.mp hr
      by_cases hx : index = i
      · rw [← hx, hc] at hi
        cases hi
        exact hruns
      · rw [← h.others i hx] at hi
        exact Show.runs_iff.mpr ⟨i, b, hi, rfl, hb⟩
    · exact hruns

theorem runs_stopScene_iff {index : Nat} {c : Scene} {given : String}
    (hn : (s.scenes.map (·.name)).Nodup) (hi : s.sceneIndex? given = some index)
    (hc : s.scene? given = some c) (ht : c.isTopLevel = false) :
    (s.stopScene given).2.Runs name ↔ s.Runs name ∧ name ≠ c.name := by
  have hat := getElem?_of_sceneIndex? hi hc
  have hs : (s.stopScene given).2.scenes =
      s.scenes.modify index fun c => { c.reset with enabled := false } := by
    simp [stopScene, hi, hc, ht, modifyScene]
  -- Of two positions one name stands at no more than one, so that the others are as they were.
  have hother : ∀ (i : Nat) (b : Scene), s.scenes[i]? = some b →
      (index ≠ i ↔ b.name ≠ c.name) := by
    intro i b hb
    have hl : index < (s.scenes.map (·.name)).length := by
      rw [List.length_map]
      exact (List.getElem?_eq_some_iff.mp hat).1
    have hinj := List.getElem?_inj hl hn (j := i)
    rw [List.getElem?_map, List.getElem?_map, hat, hb] at hinj
    rw [ne_comm (a := b.name)]
    exact not_congr (by simpa using hinj.symm)
  rw [runs_iff, runs_iff, hs]
  constructor
  · rintro ⟨i, b, hb, rfl, he⟩
    by_cases hx : index = i
    · rw [← hx, List.getElem?_modify_eq, hat] at hb
      cases hb
      cases he
    · rw [List.getElem?_modify_ne _ _ hx] at hb
      exact ⟨⟨i, b, hb, rfl, he⟩, (hother i b hb).mp hx⟩
  · rintro ⟨⟨i, b, hb, rfl, he⟩, hne⟩
    exact ⟨i, b, by rw [List.getElem?_modify_ne _ _ ((hother i b hb).mpr hne), hb], rfl, he⟩

theorem Happens.names {hosted : Prop} (h : Happens hosted s e t) :
    t.scenes.map (·.name) = s.scenes.map (·.name) := by
  cases h with
  | starts hc => exact ((Rebuilt.rebuild hc).evolves hc).names
  | stops => exact (Evolves.stopScene s _).names
  | performs | sends => rfl

theorem Course.names {hosted : Prop} (h : Course hosted s es t) :
    t.scenes.map (·.name) = s.scenes.map (·.name) := by
  induction h with
  | refl => rfl
  | still hs _ ih => exact ih.trans hs.names
  | step he _ ih => exact ih.trans he.names

namespace Housed

theorem still (h : Housed s) (hs : Still s t) : Housed t :=
  ⟨hs.names ▸ h.distinct, fun tag name ho => hs.runs_iff.mpr (h.owners tag name (hs.stage ▸ ho))⟩

theorem happens (h : Housed s) (he : Happens False s e t) : Housed t := by
  refine ⟨he.names ▸ h.distinct, fun tag name ho => ?_⟩
  cases he with
  | starts hc =>
    have hr := Rebuilt.rebuild hc
    rw [hr.stage] at ho
    exact (hr.runs_iff hc).mpr (.inl (h.owners tag name ho))
  | stops hi hc ht =>
    rw [stage_stopScene hi hc ht, Stage.owner?_removeScene, Option.filter_eq_some_iff] at ho
    exact (runs_stopScene_iff h.distinct hi hc ht).mpr
      ⟨h.owners tag name ho.1, by simpa using ho.2⟩
  | performs hr => exact h.owners tag name ho
  | sends hf hr =>
    -- Only a placement gives a sprite an owner, and it is made for a scene that runs.
    rcases Stage.owner?_apply _ ho with ho | ⟨image, placement, rfl⟩
    · exact h.owners tag name ho
    · have hn := hf.2
      subst hn
      exact hr.resolve_left id

theorem course (h : Housed s) (hc : Course False s es t) : Housed t := by
  induction hc with
  | refl => exact h
  | still hs _ ih => exact ih (h.still hs)
  | step he _ ih => exact ih (h.happens he)

end Housed

/-- A scene that does not run performs nothing and does not run later on, unless it is started. -/
theorem Course.idle (h : Course False s es t) (hs : Housed s) (hr : ¬ s.Runs name)
    (hn : .starts name ∉ es) : ¬ t.Runs name ∧ ∀ m text, .performs m text name ∉ es := by
  induction h with
  | refl => exact ⟨hr, fun _ _ hm => by cases hm⟩
  | still hst _ ih => exact ih (hs.still hst) (by rwa [hst.runs_iff]) hn
  | @step s t u e es he _ ih =>
    obtain ⟨hne, hn⟩ := not_or.mp (mt List.mem_cons.mpr hn)
    have ht : ¬ t.Runs name ∧ ∀ m text, e ≠ .performs m text name := by
      cases he with
      | starts hc =>
        refine ⟨fun ht => ?_, fun _ _ => nofun⟩
        rcases ((Rebuilt.rebuild hc).runs_iff hc).mp ht with ht | rfl
        · exact hr ht
        · exact hne rfl
      | stops hi hc ht =>
        exact ⟨fun ht' => hr ((runs_stopScene_iff hs.distinct hi hc ht).mp ht').1, fun _ _ => nofun⟩
      | performs hp => exact ⟨hr, fun _ _ he => by cases he; exact hr hp⟩
      | sends => exact ⟨hr, fun _ _ => nofun⟩
    obtain ⟨hu, hp⟩ := ih (hs.happens he) ht.1 hn
    refine ⟨hu, fun m text hm => ?_⟩
    rcases List.mem_cons.mp hm with hm | hm
    · exact ht.2 m text hm.symm
    · exact hp m text hm

theorem Course.runs {m : Show} {text : String} (h : Course False s es t)
    (hm : .performs m text name ∈ es) : m.Runs name := by
  obtain ⟨before, later, rfl⟩ := List.append_of_mem hm
  obtain ⟨_, _, _, hp, _⟩ := h.happens
  cases hp with
  | performs hr => exact hr

theorem Happens.not_runs (h : Happens False s (.stops name) t) (hs : Housed s) : ¬ t.Runs name := by
  cases h with
  | stops hi hc ht => exact fun hr => ((runs_stopScene_iff hs.distinct hi hc ht).mp hr).2 rfl

theorem stage_install (s : Show) (script : Script) : (s.install script).stage = s.stage := by
  have hadd : ∀ (s : Show) (c : Scene), (s.addScene c).stage = s.stage := by
    intro s c
    unfold addScene
    split <;> rfl
  have hfold : ∀ (scenes : List Scene) (s : Show), (scenes.foldl addScene s).stage = s.stage := by
    intro scenes
    induction scenes with
    | nil => exact fun _ => rfl
    | cons c scenes ih => exact fun s => (ih (s.addScene c)).trans (hadd s c)
  exact hfold _ _

theorem housed_of_installs (h : Reachable Call.Installs s) : s.Housed := by
  have hc : s.Coherent := (h.mono fun c hc => Call.Installs.proper hc).coherent
  have hs : s.stage = .empty := by
    refine h.invariant (P := fun s => s.stage = .empty) (fun _ _ _ _ _ => rfl) fun s c hs hc => ?_
    cases c with
    | install script => exact (stage_install s script).trans hs
    | _ => exact hc.elim
  refine ⟨?_, fun tag name ho => ?_⟩
  · have hd := List.pairwise_map.mp hc.distinct
    exact List.pairwise_map.mpr (hd.imp fun hne hn => hne (congrArg Text.lowerAscii hn))
  · rw [hs] at ho
    cases ho

/-- As long as the host leaves the stage and the scenes to the scripts, the sprites between calls
belong to scenes that run, and actions are performed only for scenes that run. So a scene that was
stopped performs nothing and has no sprite until it is started again. -/
theorem performs_only_running (hs : Reachable Call.Installs s) {calls : List Call}
    (hc : ∀ c ∈ calls, c.Drives False) :
    (∀ m text scene, .performs m text scene ∈ s.course calls → m.Runs scene) ∧
    (∀ tag scene, (calls.foldl Call.run s).stage.owner? tag = some scene →
      (calls.foldl Call.run s).Runs scene) ∧
    ∀ before scene since later, s.course calls = before ++ .stops scene :: since ++ later →
      .starts scene ∉ since → (∀ m text, .performs m text scene ∉ since) ∧
        ∀ tag, ((before ++ .stops scene :: since).foldl Stage.after s.stage).owner? tag ≠
          some scene := by
  have hh := housed_of_installs hs
  have hb : s.registry = .builtin :=
    (hs.mono fun c hc => Call.Installs.proper hc).coherent.registry
  have hcourse := course_calls hc hb
  have hend := hh.course hcourse
  refine ⟨fun m text scene hm => hcourse.runs hm, hend.owners,
    fun before scene since later he hn => ?_⟩
  rw [he] at hcourse
  obtain ⟨v, hv, _⟩ := hcourse.split
  obtain ⟨t, u, hbefore, hstops, hsince⟩ := hv.happens
  have ht := hh.course hbefore
  obtain ⟨hidle, hp⟩ := hsince.idle (ht.happens hstops) (hstops.not_runs ht) hn
  refine ⟨hp, fun tag ho => hidle ?_⟩
  rw [← hv.stage_eq] at ho
  exact (hh.course hv).owners tag scene ho

theorem performs_only_running_click :
    ∃ m : Show, m.Runs topLevel ∧ .performs m "echo hi" topLevel ∈
      (install (.start (640, 480) 30 Expression.evaluate .still .empty) clickScript).course
        [.begin ⟨0, .midnight⟩, .frame ⟨40, .midnight⟩ {},
          .frame ⟨80, .midnight⟩ (Input.clickAt {} 0 0)] := by
  have hs : Reachable Call.Installs
      (install (.start (640, 480) 30 Expression.evaluate .still .empty) clickScript) :=
    .call (c := .install clickScript) (.start ..) loaded_clickScript
  have hm : ((install (.start (640, 480) 30 Expression.evaluate .still .empty) clickScript).course
      [.begin ⟨0, .midnight⟩, .frame ⟨40, .midnight⟩ {},
        .frame ⟨80, .midnight⟩ (Input.clickAt {} 0 0)]).any (fun
      | .performs _ text scene => text = "echo hi" ∧ scene = topLevel
      | _ => false) := by decide +kernel
  obtain ⟨e, he, hp⟩ := List.any_eq_true.mp hm
  cases e with
  | performs m text scene =>
    obtain ⟨rfl, rfl⟩ := of_decide_eq_true hp
    exact ⟨m, (performs_only_running hs (by simp [Call.Drives])).1 m _ _ he, he⟩
  | starts | stops | sends => cases hp

end Show
end Showrunner
