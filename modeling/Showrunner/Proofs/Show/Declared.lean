import Showrunner.Proofs.Script.Names
import Showrunner.Proofs.Show.Running
import Showrunner.Proofs.Show.StartLine

namespace Showrunner.Show

open Script Text Variables

variable {s t u : Show} {c : Scene} {script : Script} {name : String}

def declared (s : Show) : List (String × List String) := s.scenes.map fun c => (c.name, c.content)

/-- The names of the scenes are in small letters. -/
def Lowered (s : Show) : Prop := ∀ c ∈ s.scenes, lowercase c.name = c.name

theorem scenes_addScene (s : Show) (c : Scene) :
    (∃ before d after, s.scenes = before ++ d :: after ∧ lowerAscii d.name = lowerAscii c.name ∧
      (s.addScene c).scenes = before ++ c :: after) ∨
    (s.addScene c).scenes = s.scenes ++ [c] := by
  unfold addScene
  split
  · next index hi =>
    obtain ⟨hl, hsame, -⟩ := List.findIdx?_eq_some_iff_getElem.mp hi
    obtain ⟨before, d, after, hs, hlen, hm⟩ := List.exists_of_modify (fun _ => c) hl
    have hd : s.scenes[index] = d := by simp [hs, ← hlen]
    rw [hd] at hsame
    exact .inl ⟨before, d, after, hs, beq_iff_eq.mp hsame, hm⟩
  · exact .inr rfl

theorem mem_addScene (s : Show) (c : Scene) : c ∈ (s.addScene c).scenes := by
  rcases scenes_addScene s c with ⟨before, d, after, -, -, h⟩ | h <;> simp [h]

theorem mem_addScene_of_ne {d : Scene} (hd : d ∈ s.scenes)
    (hne : lowerAscii d.name ≠ lowerAscii c.name) : d ∈ (s.addScene c).scenes := by
  rcases scenes_addScene s c with ⟨before, e, after, hs, he, h⟩ | h
  · have hde : d ≠ e := fun heq => hne (heq ▸ he)
    simp only [hs, List.mem_append, List.mem_cons, hde, false_or] at hd
    simpa [h] using hd.imp_right .inr
  · simp [h, hd]

theorem mem_of_mem_addScene {d : Scene} (hd : d ∈ (s.addScene c).scenes) :
    d = c ∨ d ∈ s.scenes := by
  rcases scenes_addScene s c with ⟨before, e, after, hs, -, h⟩ | h
  · simp only [h, List.mem_append, List.mem_cons] at hd
    simp only [hs, List.mem_append, List.mem_cons]
    tauto
  · simp only [h, List.mem_append, List.mem_singleton] at hd
    exact hd.symm

section

variable {scenes : List Scene}

theorem mem_foldl_addScene_of_ne (hc : c ∈ s.scenes)
    (hne : ∀ d ∈ scenes, lowerAscii c.name ≠ lowerAscii d.name) :
    c ∈ (scenes.foldl addScene s).scenes := by
  induction scenes generalizing s with
  | nil => exact hc
  | cons d scenes ih =>
    exact ih (mem_addScene_of_ne hc (hne d List.mem_cons_self)) fun e he =>
      hne e (List.mem_cons_of_mem d he)

theorem mem_foldl_addScene (hn : (scenes.map fun c => lowerAscii c.name).Nodup)
    (hc : c ∈ scenes) : c ∈ (scenes.foldl addScene s).scenes := by
  induction scenes generalizing s with
  | nil => cases hc
  | cons d scenes ih =>
    obtain ⟨hd, hn⟩ := List.nodup_cons.mp hn
    rcases List.mem_cons.mp hc with rfl | hc
    · refine @mem_foldl_addScene_of_ne (s.addScene c) c scenes (mem_addScene s c) ?_
      exact fun e he heq => hd (List.mem_map.mpr ⟨e, he, heq.symm⟩)
    · exact ih hn hc

theorem mem_of_mem_foldl_addScene (hc : c ∈ (scenes.foldl addScene s).scenes) :
    c ∈ scenes ∨ c ∈ s.scenes := by
  induction scenes generalizing s with
  | nil => exact .inr hc
  | cons d scenes ih =>
    rcases ih hc with hc | hc
    · exact .inl (List.mem_cons_of_mem d hc)
    · rcases mem_of_mem_addScene hc with rfl | hc
      · exact .inl List.mem_cons_self
      · exact .inr hc

end

theorem Lowered.of_names (h : s.Lowered)
    (hn : t.scenes.map (·.name) = s.scenes.map (·.name)) : t.Lowered := by
  intro c hc
  have hm : c.name ∈ s.scenes.map (·.name) := hn ▸ List.mem_map_of_mem hc
  obtain ⟨d, hd, hdc⟩ := List.mem_map.mp hm
  exact hdc ▸ h d hd

theorem Lowered.install (h : s.Lowered) (hl : script.Loaded) : (s.install script).Lowered := by
  intro c hc
  rcases mem_of_mem_foldl_addScene hc with hc | hc
  · exact hl.small c hc
  · exact h c hc

theorem Lowered.run (h : s.Lowered) (hb : s.registry = .builtin) {call : Call}
    (hc : call.Proper) : (call.run s).Lowered := by
  have hcourse (hd : call.Drives True) : (call.run s).Lowered := h.of_names (course_run hd hb).names
  cases call with
  | install script => exact h.install hc
  | send | setImageSize => exact h
  | _ => exact hcourse trivial

/-- Whatever a host does, the names of the scenes are in small letters. -/
theorem Reachable.lowered (h : Reachable Call.Proper s) : s.Lowered := by
  refine (h.invariant (P := fun s => s.Coherent ∧ s.Lowered) ?_ ?_).2
  · exact fun display framerate evaluator dice disk => ⟨.start .., nofun⟩
  · exact fun s call hs hc => ⟨hs.1.run hc, hs.2.run hs.1.registry hc⟩

theorem Lowered.of_declared (h : s.Lowered) (hd : t.declared = s.declared) : t.Lowered := by
  refine h.of_names ?_
  have hn := congrArg (List.map Prod.fst) hd
  unfold declared at hn
  rwa [List.map_map, List.map_map] at hn

theorem nodup_of_declared (h : s.Coherent) (hd : t.declared = s.declared) :
    (t.scenes.map fun c => lowerAscii c.name).Nodup := by
  have hn := congrArg (List.map fun entry => lowerAscii entry.1) hd
  unfold declared at hn
  rw [List.map_map, List.map_map] at hn
  exact hn ▸ h.distinct

theorem lowerAscii_of_lowercase (h : lowercase name = name) : lowerAscii name = name := by
  rw [← h, lowerAscii_lowercase]

theorem scene?_declared (h : Reachable Call.Proper s) (hl : script.Loaded)
    (hdistinct : (script.scenes.map (·.name)).Nodup)
    (hu : u.declared = (s.install script).declared) (hc : c ∈ script.scenes)
    (hn : lowerAscii name = c.name) :
    ∃ d, u.scene? name = some d ∧ d.name = c.name ∧ d.content = c.content := by
  have hsmall : script.scenes.map (fun c => lowerAscii c.name) = script.scenes.map (·.name) :=
    List.map_congr_left fun c hc => lowerAscii_of_lowercase (hl.small c hc)
  have hinstalled : c ∈ (s.install script).scenes := mem_foldl_addScene (hsmall ▸ hdistinct) hc
  have hentry : (c.name, c.content) ∈ u.declared := by
    rw [hu]
    exact List.mem_map.mpr ⟨c, hinstalled, rfl⟩
  obtain ⟨d, hd, hdc⟩ := List.mem_map.mp hentry
  obtain ⟨hname, hcontent⟩ := Prod.mk.inj hdc
  refine ⟨d, scene?_of_mem (nodup_of_declared (h.coherent.install hl) hu) hd ?_, hname, hcontent⟩
  rw [hn, hname]
  exact lowerAscii_of_lowercase (hl.small c hc)

/-- A name that is not in small letters once its ASCII letters are is the name of no scene. -/
theorem scene?_of_ne (h : u.Lowered) (hn : lowerAscii name ≠ lowercase name) :
    u.scene? name = none := by
  refine Option.eq_none_iff_forall_ne_some.mpr fun c hc => hn ?_
  have hsmall := h c (List.mem_of_find?_eq_some hc)
  have hsame : lowerAscii c.name = lowerAscii name := by
    have hs := List.find?_some hc
    exact beq_iff_eq.mp hs
  rw [← lowercase_lowerAscii, ← hsame, lowerAscii_of_lowercase hsmall, hsmall]

/-- A scene can be started by the word that it was declared with, and then it is the one with the
lines of the last block of its name, provided that making the ASCII letters of the word small
leaves no other capitals. With other capitals in it, no scene is found by the word. -/
theorem start_declared (h : Reachable Call.Proper s) {d : Disk} {root : Root}
    (hl : root.load d = .ok script) {log : List Entry} (hlog : root.HasLog d log) {b : Block}
    (hb : b ∈ ended log) (hfilled : linesOf (some b) log ≠ []) (hopened : b.OpenedAs name)
    (hliteral : Literal name.toList) (hu : u.declared = (s.install script).declared)
    (hreg : u.registry = .builtin) (hroom : u.startDepth < maxStartDepth) (scene : String) :
    u.act ("start " ++ name) scene =
      (⟨some (trim ("start " ++ name)), false⟩, (u.startScene name).2) ∧
    (lowerAscii name = lowercase name → (u.startScene name).1 ∧
      ∃ c last es, u.scene? name = some c ∧ c.name = b.name ∧
        latest? (fun b => linesOf (some b) log) (ended log) b.name = some last ∧
        c.content = linesOf (some last) log ∧
        u.actEvents ("start " ++ name) scene =
          .performs u ("start " ++ name) scene :: .starts c.name :: es) ∧
    (lowerAscii name ≠ lowercase name →
      u.startScene name = (false, u.report (Problem.noScene name).anywhere)) := by
  have hloaded : script.Loaded := Root.loaded hl
  have hfaithful := hlog.faithful hl
  obtain ⟨hsolid, hne⟩ := hopened.solid
  refine ⟨act_start hreg hsolid hne hliteral scene, fun hascii => ?_, fun hother => ?_⟩
  · obtain ⟨c, hc, hname⟩ := hfaithful.defined b hb hfilled
    have hmain : c.name ≠ topLevel := hname ▸ (hfaithful.closed b (mem_blocks_of_mem_ended hb)).2
    obtain ⟨last, hlast, hlines⟩ := hfaithful.content c hc hmain
    have hspelling : lowerAscii name = c.name := by rw [hascii, hname, hopened.name_eq]
    obtain ⟨e, he, hen, hec⟩ := scene?_declared h hloaded hfaithful.distinct hu hc hspelling
    obtain ⟨hstarted, es, hes⟩ := startScene_of_some he hroom
    refine ⟨hstarted, e, last, es, he, hen.trans hname, hname ▸ hlast, hec.trans hlines, ?_⟩
    rw [actEvents_start hreg hsolid hne hliteral scene, hes]
  · exact startScene_of_none (scene?_of_ne ((h.lowered.install hloaded).of_declared hu) hother)

def capitalRoot : Root := .inMemory "Scene Intro\nbegin\necho hi" ⟨""⟩

theorem start_declared_intro :
    ∃ script, capitalRoot.load .empty = .ok script ∧
      (((Show.start (640, 480) 30 Expression.evaluate .still .empty).install script).startScene
        "Intro").1 := by
  have hscenes : (capitalRoot.load .empty).toOption.map
      (fun script => script.scenes.map fun c => (c.name, c.content)) =
        some [("intro", ["begin", "echo hi"])] := by
    decide +kernel
  cases hl : capitalRoot.load .empty with
  | error e => rw [hl] at hscenes; cases hscenes
  | ok script =>
    rw [hl] at hscenes
    have hentries : script.scenes.map (fun c => (c.name, c.content)) =
        [("intro", ["begin", "echo hi"])] := Option.some.inj hscenes
    have hentry : ("intro", ["begin", "echo hi"]) ∈
        script.scenes.map fun c => (c.name, c.content) := by
      rw [hentries]
      exact List.mem_singleton.mpr rfl
    obtain ⟨c, hc, hentry⟩ := List.mem_map.mp hentry
    obtain ⟨hname, -⟩ := Prod.mk.inj hentry
    obtain ⟨log, hlog⟩ := Root.exists_log hl
    obtain ⟨b, hlatest, -⟩ := (hlog.faithful hl).content c hc (by rw [hname]; decide)
    obtain ⟨hb, hbname, hfilled⟩ := spec_of_latest? hlatest
    have hopened : b.OpenedAs "Intro" :=
      ⟨"Scene Intro", "Scene", [], by decide, by decide, by rw [hbname, hname]; decide⟩
    have hstart : Reachable Call.Proper (.start (640, 480) 30 Expression.evaluate .still .empty) :=
      .start ..
    have ht := hstart.coherent.install (Root.loaded hl)
    have hroom : (((Show.start (640, 480) 30 Expression.evaluate .still .empty).install
        script).startDepth) < maxStartDepth := by
      rw [ht.idle]
      decide
    exact ⟨script, rfl, ((start_declared hstart hl hlog hb hfilled hopened (by decide) rfl
      ht.registry hroom topLevel).2.1 (by decide)).1⟩

def accentScript : Script := ⟨[.ofContent "é" ⟨""⟩ ["begin", "echo hi"]], [.noTopLevel]⟩

def accentShow : Show :=
  (Show.start (640, 480) 30 Expression.evaluate .still .empty).install accentScript

/-- That scene is not found by the name that it was declared with. -/
theorem start_declared_accent :
    Script.ofText .empty "scene É\nbegin\necho hi" ⟨""⟩ = .ok accentScript ∧
    accentShow.act "start É" topLevel =
      (⟨some "start É", false⟩, accentShow.report (Problem.noScene "É").anywhere) := by
  have hfound : accentShow.scene? "É" = none := by decide
  have hact := @act_start accentShow "É" rfl (by decide) (by decide) (by decide) topLevel
  rw [startScene_of_none hfound] at hact
  exact ⟨rfl, hact⟩

end Showrunner.Show
