import Showrunner.Proofs.Command.Builtin
import Showrunner.Proofs.Show.Evolution

namespace Showrunner.Show

open Relation

def received (s : Show) (scene : String) (found : Pattern.Match) : Show :=
  s.reportAll (found.mismatches.map fun m => (Problem.mismatch m).within scene)

theorem AfterReading.received (s : Show) (scene : String) (found : Pattern.Match) :
    AfterReading s (s.received scene found) :=
  ⟨s.dice, s.lastDuration, _, rfl⟩

/-- A line that is found to be a command carries it out. After that there are only reports. -/
theorem dispatch_found (start : Show → String → Show) {s : Show} {line : String} {c : Command}
    {found : Pattern.Match} (hf : s.registry.find? (Text.words line) = some (c, found))
    (scene : String) :
    AfterReading ((c.handler.run start ⟨scene, found⟩).run.run (s.received scene found)).2
      (dispatch start s line scene).2 := by
  have hw : (Text.words line).isEmpty = false := Registry.isEmpty_of_find? hf
  unfold dispatch received
  simp only [hw, hf, Bool.false_eq_true, if_false]
  split
  · next he =>
    rw [he]
    exact .refl _
  · next he =>
    rw [he]
    exact .report _ _

theorem dispatch_cases (start : Show → String → Show) (s : Show) (line scene : String) :
    AfterReading s (dispatch start s line scene).2 ∨
      ∃ c found, s.registry.find? (Text.words line) = some (c, found) ∧
        AfterReading ((c.handler.run start ⟨scene, found⟩).run.run (s.received scene found)).2
          (dispatch start s line scene).2 := by
  cases hf : s.registry.find? (Text.words line) with
  | none =>
    left
    unfold dispatch
    simp only [hf]
    split
    · exact .refl s
    · exact .report s _
  | some r => exact .inr ⟨r.1, r.2, rfl, dispatch_found start hf scene⟩

/-- A relation between a show and a later one that no change made by performing breaks. Building
a scene anew counts as one change, and so does all that happens within one start. -/
structure Upheld (R : Show → Show → Prop) : Prop where
  refl : ∀ s, R s s
  trans : ∀ {s t u}, R s t → R t u → R s u
  registry : ∀ {s t}, R s t → t.registry = s.registry
  read : ∀ {s t}, AfterReading s t → R s t
  send : ∀ {s scene e}, e.Fits s.stage scene → R s (s.send e)
  assign : ∀ s name value scene, R s (s.setVar name value scene)
  useFolder : ∀ s index folder,
    R s (s.modifyScene index fun c => { c with fromFolder := folder })
  stop : ∀ s name, R s (s.stopScene name).2
  exit : ∀ s, R s { s with exitRequested := true }
  rebuild : ∀ {s index c}, s.scenes[index]? = some c → R s (s.rebuild index c)
  nest : ∀ {s t}, R { s with startDepth := s.startDepth + 1 } t →
    R s { t with startDepth := t.startDepth - 1 }

namespace Upheld

variable {R : Show → Show → Prop} {start : Show → String → Show} {s t : Show}

theorem change (hR : Upheld R) {scene : String} (h : Change scene s t) : R s t := by
  cases h with
  | report p => exact hR.read (.report s _)
  | send e h => exact hR.send h
  | assign name value => exact hR.assign s name value scene
  | remember last => exact hR.read ⟨s.dice, last, [], by simp⟩
  | useFolder index folder h => exact hR.useFolder s index folder
  | exit => exact hR.exit s

section

variable (hR : Upheld R) (hs : ∀ s name, s.registry = .builtin → R s (start s name))
include hR hs

theorem move {scene : String} (hb : s.registry = .builtin) (h : Move start scene s t) : R s t := by
  cases h with
  | change _ h => exact hR.change h
  | start name => exact hs s name hb
  | stop name => exact hR.stop s name

theorem moves {scene : String} (hb : s.registry = .builtin)
    (h : ReflTransGen (Move start scene) s t) : R s t := by
  induction h with
  | refl => exact hR.refl s
  | tail _ hm ih => exact hR.trans ih (hR.move hs ((hR.registry ih).trans hb) hm)

theorem dispatch (hb : s.registry = .builtin) (line scene : String) :
    R s (dispatch start s line scene).2 := by
  rcases dispatch_cases start s line scene with h | ⟨c, found, hf, h⟩
  · exact hR.read h
  · have hr : AfterReading s (s.received scene found) := .received s scene found
    have hm := hR.moves hs (hr.registry.trans hb)
      (Handler.sound_run start c.handler (tagged_of_find? (hb ▸ hf) scene)).moves
    exact hR.trans (hR.read hr) (hR.trans hm (hR.read h))

theorem runGuarded (hb : s.registry = .builtin) (text scene : String) :
    R s (runGuarded start s text scene).2 := by
  unfold Show.runGuarded
  split
  · exact hR.refl s
  · next body _ =>
    have hd := hR.dispatch hs hb (Text.trim body) scene
    dsimp only
    generalize Show.dispatch start s (Text.trim body) scene = r at hd ⊢
    exact hd

theorem perform (hb : s.registry = .builtin) (text scene : String) :
    R s (perform start s text scene).2 := by
  have he : AfterReading s (s.expand text scene).2 := .expand s text scene
  have hb' := he.registry.trans hb
  unfold Show.perform
  dsimp only
  split
  · split
    · exact hR.trans (hR.read he) (hR.runGuarded hs hb' _ scene)
    · exact hR.trans (hR.read he) (hR.read (.report _ _))
  · exact hR.trans (hR.read he) (hR.runGuarded hs hb' _ scene)

theorem beginWith (index : Nat) (scene : String) (generation : Option Nat) (lines : List String)
    (hb : s.registry = .builtin) : R s (beginWith start index scene generation lines s) := by
  induction lines generalizing s with
  | nil => exact hR.refl s
  | cons text rest ih =>
    unfold Show.beginWith
    split
    · exact hR.refl s
    · have ha : R s (s.announce .start) := hR.assign s _ _ _
      have hp := hR.trans ha (hR.perform hs ((hR.registry ha).trans hb) text scene)
      exact hR.trans hp (ih ((hR.registry hp).trans hb))

end

variable (hR : Upheld R)
include hR

/-- What each change keeps to, a start keeps to, however deeply scenes start each other. -/
theorem startWithin (room : Nat) (s : Show) (name : String) (hb : s.registry = .builtin) :
    R s (startWithin room s name).2 := by
  induction room generalizing s name with
  | zero =>
    unfold Show.startWithin
    split <;> exact hR.read (.report s _)
  | succ room ih =>
    unfold Show.startWithin
    split
    · next index c hi hc =>
      have hr : R s (s.rebuild index c) := hR.rebuild (getElem?_of_sceneIndex? hi hc)
      have hb' := (hR.registry hr).trans hb
      exact hR.trans hr (hR.nest (hR.beginWith (fun s name h => ih s name h) index c.name _ _ hb'))
    · exact hR.read (.report s _)

theorem startScene (s : Show) (name : String) (hb : s.registry = .builtin) :
    R s (s.startScene name).2 :=
  hR.startWithin _ s name hb

theorem command (s : Show) (line scene : String) (hb : s.registry = .builtin) :
    R s (s.command line scene).2 :=
  hR.dispatch (fun s name h => hR.startScene s name h) hb line scene

theorem act (s : Show) (text scene : String) (hb : s.registry = .builtin) :
    R s (s.act text scene).2 :=
  hR.perform (fun s name h => hR.startScene s name h) hb text scene

end Upheld

/-- Performing lets scenes evolve and does nothing else to them. -/
theorem upheld_evolves : Upheld Evolves where
  refl := .refl
  trans := .trans
  registry := Evolves.registry
  read h := h.evolves
  send _ := .of_eq rfl rfl rfl
  assign _ _ _ _ := .of_eq rfl rfl rfl
  useFolder s index folder := .modifyScene s index fun c => .useFolder c folder
  stop s name := .stopScene s name
  exit _ := .of_eq rfl rfl rfl
  rebuild h := (Rebuilt.rebuild h).evolves h
  nest {s t} h := by
    have hd := h.startDepth
    exact ⟨h.length, h.scene, by dsimp only at hd ⊢; omega, h.registry⟩

end Showrunner.Show
