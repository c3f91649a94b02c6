import Showrunner.Command.Resources
import Showrunner.Proofs.Command.Act

namespace Showrunner

/-- What an effect sent for a scene refers to is there, and what it makes is not there yet. -/
def Effect.Fits (stage : Stage) (scene : String) : Effect → Prop
  | .echo _ => True
  | .loadResource tag _ _ => ¬ stage.hasImage tag ∧ ¬ stage.hasSound tag
  | .unloadResource tag => stage.hasImage tag ∨ stage.hasSound tag
  | .playSound tag => stage.hasSound tag
  | .setVolume tag volume => stage.hasSound tag ∧ ∃ x, volume = Command.clamp 0 100 x / 100
  | .placeSprite image _ owner _ => stage.hasImage image ∧ owner = scene
  | .createGroup tag _ | .createText tag _ => ¬ stage.hasImage tag
  | .setText tag _ | .setFont tag _ => stage.hasImage tag
  | .addToGroup group sprite => stage.hasImage group ∧ stage.hasSprite sprite
  | .setTransparency sprite amount _ =>
    stage.hasSprite sprite ∧ ∃ x, amount = Command.clamp 0 100 x
  | .setWindow sprite .. | .zoomWindow sprite .. | .scrollWindow sprite .. | .removeSprite sprite
  | .moveSprite sprite .. | .setSpeed sprite .. | .setBlur sprite .. | .resize sprite ..
  | .rescale sprite .. | .rotate sprite .. | .changeDepth sprite _ | .setDepth sprite _
  | .stepFrame sprite _ | .seekFrame sprite _ | .setAnimationRate sprite ..
  | .setBrightness sprite .. | .setVisibility sprite .. | .setPaused sprite _ =>
    stage.hasSprite sprite

namespace Show

/-- One change that a command line of a scene makes by itself. -/
inductive Change (scene : String) : Show → Show → Prop
  | report (s : Show) (p : Problem) : Change scene s (s.report (p.within scene))
  | send (s : Show) (e : Effect) (h : e.Fits s.stage scene) : Change scene s (s.send e)
  | assign (s : Show) (name value : String) : Change scene s (s.setVar name value scene)
  | remember (s : Show) (last : Option Float) : Change scene s { s with lastDuration := last }
  | useFolder (s : Show) (index : Nat) (folder : String) (h : s.sceneIndex? scene = some index) :
    Change scene s (s.modifyScene index fun owner => { owner with fromFolder := folder })
  | exit (s : Show) : Change scene s { s with exitRequested := true }

/-- One change that a command line of a scene can bring about. Scenes are started by `start`. -/
inductive Move (start : Show → String → Show) (scene : String) : Show → Show → Prop
  | change (s t : Show) (h : Change scene s t) : Move start scene s t
  | start (s : Show) (name : String) : Move start scene s (start s name)
  | stop (s : Show) (name : String) : Move start scene s (s.stopScene name).2

/-- One change that a command line makes by itself without assigning a variable. -/
def Touch (scene : String) (s t : Show) : Prop := Change scene s t ∧ t.vars = s.vars

namespace Touch

variable {scene : String} {s : Show}

theorem report (s : Show) (p : Problem) : Touch scene s (s.report (p.within scene)) :=
  ⟨.report s p, rfl⟩

theorem send (s : Show) (e : Effect) (h : e.Fits s.stage scene) : Touch scene s (s.send e) :=
  ⟨.send s e h, rfl⟩

theorem remember (s : Show) (last : Option Float) :
    Touch scene s { s with lastDuration := last } :=
  ⟨.remember s last, rfl⟩

theorem useFolder (s : Show) (index : Nat) (folder : String)
    (h : s.sceneIndex? scene = some index) :
    Touch scene s (s.modifyScene index fun owner => { owner with fromFolder := folder }) :=
  ⟨.useFolder s index folder h, rfl⟩

theorem exit (s : Show) : Touch scene s { s with exitRequested := true } := ⟨.exit s, rfl⟩

theorem vars_eq {t : Show} (h : Relation.ReflTransGen (Touch scene) s t) : t.vars = s.vars := by
  induction h with
  | refl => rfl
  | tail _ h ih => exact h.2.trans ih

theorem registry_eq {t : Show} (h : Relation.ReflTransGen (Touch scene) s t) :
    t.registry = s.registry := by
  induction h with
  | refl => rfl
  | tail _ h ih => cases h.1 <;> exact ih

end Touch

end Show

theorem Scene.holds_of_resolveTag {owner : Scene} {tag name : String} {holds : String → Bool}
    (h : owner.resolveTag tag holds = some name) : holds name := by
  unfold resolveTag at h
  split at h
  · cases h
  · split at h
    · next hn => cases h; exact hn
    · cases h
  · split at h
    · split at h
      · next hn => cases h; exact hn
      · cases h
    · split at h
      · next hn => cases h; exact hn
      · split at h
        · next hn => cases h; exact hn
        · cases h

namespace Act

open Relation Show

variable {inv : Invocation} {s : Show}

theorem sure_report (p : Problem) : SureAt (Touch inv.scene) (report inv p) s :=
  sure_modify (.single (.report s p))

theorem sure_send {e : Effect} (h : e.Fits s.stage inv.scene) :
    SureAt (Touch inv.scene) (send e) s :=
  sure_modify (.single (.send s e h))

theorem run_resolve (inv : Invocation) (s : Show) (kind : TagKind) (tag : String) :
    (∃ name, holds s.stage kind name ∧ (resolve inv kind tag).run.run s = (.ok (some name), s)) ∨
      (resolve inv kind tag).run.run s =
        (.ok none, s.report ((Problem.noTag kind tag).within inv.scene)) := by
  have hr : (resolve inv kind tag).run.run s =
    (.ok (s.resolveTag kind inv.scene tag).1, (s.resolveTag kind inv.scene tag).2) := rfl
  rw [hr]
  unfold resolveTag
  split
  · next name hn =>
    obtain ⟨owner, _, ho⟩ := Option.bind_eq_some_iff.mp hn
    exact .inl ⟨name, Scene.holds_of_resolveTag ho, rfl⟩
  · exact .inr rfl

theorem SureAt.resolve {β : Type} {kind : TagKind} {tag : String} {f : Option String → Act β}
    (hsome : ∀ name, holds s.stage kind name → SureAt (Touch inv.scene) (f (some name)) s)
    (hnone : ∀ t, SureAt (Touch inv.scene) (f none) t) :
    SureAt (Touch inv.scene) (Act.resolve inv kind tag >>= f) s := by
  rcases run_resolve inv s kind tag with ⟨name, hn, hr⟩ | hr
  · refine SureAt.bind ⟨_, _, hr, .refl⟩ fun a t he => ?_
    rw [hr] at he
    cases he
    exact hsome name hn
  · exact SureAt.bind ⟨_, _, hr, .single (.report s _)⟩ fun a t he => by
      rw [hr] at he
      cases he
      exact hnone _

theorem sure_sendTo (kind : TagKind) {tag : String} {effect : String → Effect}
    (h : ∀ name, holds s.stage kind name → (effect name).Fits s.stage inv.scene) :
    SureAt (Touch inv.scene) (sendTo inv kind tag effect) s :=
  SureAt.resolve (fun name hn => sure_send (h name hn)) fun _ => sure_pure ()

/-- Effects are sent to the things of a list as long as the sending itself keeps an assumption
about the stage. -/
theorem sure_toEach {kind : TagKind} {effect : String → Effect} (P : Stage → Prop)
    (hf : ∀ stage name, P stage → holds stage kind name → (effect name).Fits stage inv.scene)
    (hp : ∀ stage name, P stage → P (stage.apply (effect name)))
    (tags : List String) (hs : P s.stage) :
    SureAt (Touch inv.scene) (toEach inv kind effect tags) s := by
  induction tags generalizing s with
  | nil => exact sure_pure ()
  | cons tag tags ih =>
    unfold toEach
    refine SureAt.bind (sure_sendTo kind fun name hn => hf _ name hs hn) fun a t ht => ih ?_
    unfold sendTo at ht
    rcases run_resolve inv s kind tag with ⟨name, hn, hr⟩ | hr
    · rw [run_bind_ok hr] at ht
      cases ht
      exact hp _ name hs
    · rw [run_bind_ok hr] at ht
      cases ht
      exact hs

theorem sure_toEach_of_holds {kind : TagKind} {effect : String → Effect}
    (h : ∀ stage name, holds stage kind name → (effect name).Fits stage inv.scene)
    (tags : List String) : SureAt (Touch inv.scene) (toEach inv kind effect tags) s :=
  sure_toEach (fun _ => True) (fun stage name _ hn => h stage name hn) (fun _ _ _ => trivial) tags
    trivial

theorem sure_duration (text : Option String) : SureAt (Touch inv.scene) (duration text) s := by
  cases text with
  | none => exact ⟨_, _, rfl, .refl⟩
  | some text => exact ⟨_, _, rfl, .single (.remember s _)⟩

theorem sound_toSprite {name : String} {effect : String → Effect}
    (h : ∀ tag, s.stage.hasSprite tag → (effect tag).Fits s.stage inv.scene) :
    SoundAt (Touch inv.scene) (toSprite inv name effect) s :=
  SoundAt.lift fun _ _ => ((sure_sendTo .sprite h).returning _).sound

theorem sure_toSprite {name : String} {effect : String → Effect} (hn : (inv.text? name).isSome)
    (h : ∀ tag, s.stage.hasSprite tag → (effect tag).Fits s.stage inv.scene) :
    SureAt (Touch inv.scene) (toSprite inv name effect) s := by
  obtain ⟨tag, ht⟩ := Option.isSome_iff_exists.mp hn
  have hr : inv.required name "a sprite tag" = .ok tag := by simp [Invocation.required, ht]
  unfold toSprite
  rw [hr]
  exact SureAt.bind ⟨tag, s, run_lift _ s, .refl⟩ fun _ _ he => by
    cases he
    exact (sure_sendTo .sprite h).returning _

end Act
end Showrunner
