import Showrunner.Command.Run
import Showrunner.Proofs.Command.Move

namespace Showrunner

open Act Show

variable {inv : Invocation} {s : Show}

theorem Invocation.text?_of_number {name what : String} {x : Float}
    (h : inv.number name what = .ok x) : (inv.text? name).isSome := by
  unfold number at h
  split at h
  · cases h
  · next text ht => rw [ht]; rfl

theorem Show.moves_foldl {α : Type} {M : Show → Show → Prop} {f : Show → α → Show}
    (h : ∀ s a, Relation.ReflTransGen M s (f s a)) (l : List α) (s : Show) :
    Relation.ReflTransGen M s (l.foldl f s) := by
  induction l generalizing s with
  | nil => exact .refl
  | cons a l ih => exact (h s a).trans (ih (f s a))

namespace Command

theorem sound_echo : SoundAt (Touch inv.scene) (echo inv) s := by
  apply SureAt.sound
  apply SureAt.returning
  apply sure_send
  trivial

theorem sound_useFolder : SoundAt (Touch inv.scene) (useFolder inv) s := by
  apply SoundAt.get
  split
  · exact .throw _
  · next index hi =>
    apply SureAt.sound
    apply SureAt.returning
    exact sure_modify (.single (.useFolder s index _ hi))

theorem sound_load : SoundAt (Touch inv.scene) (load inv) s := by
  apply SoundAt.lift
  intro file _
  apply SoundAt.get
  split
  · exact .throw _
  · apply SureAt.sound
    dsimp only
    split
    · exact sure_pure _
    · next hf =>
      split
      · exact (sure_report _).returning _
      · split
        · exact (sure_report _).returning _
        · apply SureAt.returning
          apply sure_send
          simpa [Effect.Fits] using hf

theorem sound_unload : SoundAt (Touch inv.scene) (unload inv) s := by
  apply SureAt.sound
  apply SureAt.returning
  apply sure_toEach_of_holds
  intro stage name h
  simpa [holds, Effect.Fits] using h

theorem sound_play : SoundAt (Touch inv.scene) (play inv) s := by
  apply SureAt.sound
  apply SureAt.returning
  apply sure_toEach_of_holds
  exact fun _ _ h => h

theorem sound_volume : SoundAt (Touch inv.scene) (volume inv) s := by
  refine SoundAt.lift fun tag _ => SoundAt.lift fun value _ => ?_
  apply SureAt.sound
  apply SureAt.returning
  apply sure_sendTo
  exact fun _ h => ⟨h, value, rfl⟩

theorem sound_place : SoundAt (Touch inv.scene) (place inv) s := by
  refine SoundAt.lift fun image _ => SoundAt.lift fun x _ => SoundAt.lift fun y _ => ?_
  apply SoundAt.get
  apply SoundAt.get
  apply SureAt.sound
  split
  · next hs =>
    apply SureAt.bind
    · apply sure_send
      exact hs
    · intro _ t ht
      cases ht
      split
      · apply SureAt.returning
        apply sure_send
        -- The sprite is still there after the move.
        simpa [Effect.Fits, Show.send, Stage.apply, Stage.track, Stage.modifySprite,
          Stage.hasSprite, Table.contains_modify] using hs
      · exact sure_pure _
  · apply SureAt.returning
    apply sure_sendTo
    exact fun _ h => ⟨h, rfl⟩

theorem sound_put : SoundAt (Touch inv.scene) (put inv) s := by
  refine SoundAt.lift fun tag _ => ?_
  apply SureAt.sound
  apply SureAt.resolve
  · intro image hi
    apply SureAt.get
    dsimp only
    split
    · next hs =>
      apply SureAt.bind
      · apply sure_send
        exact hs
      · intro _ t ht
        cases ht
        apply SureAt.returning
        apply sure_send
        exact ⟨hi, rfl⟩
    · apply SureAt.returning
      apply sure_send
      exact ⟨hi, rfl⟩
  · exact fun _ => sure_pure _

theorem sound_window : SoundAt (Touch inv.scene) (window inv) s := by
  refine SoundAt.lift fun x _ => SoundAt.lift fun y _ => SoundAt.lift fun width _ =>
    SoundAt.lift fun height _ => ?_
  apply sound_toSprite
  exact fun _ h => h

/-- A change to a sprite that takes time. The tag has to be there for sure, since the duration is
remembered before the tag is looked at. -/
theorem sound_timed {effect : Float → String → Effect} (hn : (inv.text? "tag").isSome)
    (h : ∀ stage seconds tag, stage.hasSprite tag → (effect seconds tag).Fits stage inv.scene) :
    SoundAt (Touch inv.scene)
      (seconds inv >>= fun seconds => toSprite inv "tag" (effect seconds)) s :=
  ((sure_duration _).bind fun x _ _ => sure_toSprite hn fun tag ht => h _ x tag ht).sound

theorem leads_timed {effect : Float → String → Effect}
    (h : ∀ stage seconds tag, stage.hasSprite tag → (effect seconds tag).Fits stage inv.scene) :
    LeadsAt (Touch inv.scene)
      (seconds inv >>= fun seconds => toSprite inv "tag" (effect seconds)) s :=
  (sure_duration _).sound.moves.bind fun x _ _ =>
    (sound_toSprite fun tag ht => h _ x tag ht).moves

theorem sound_zoomWindow (ht : (inv.text? "iw").isSome → (inv.text? "tag").isSome) :
    SoundAt (Touch inv.scene) (zoomWindow inv) s := by
  refine SoundAt.lift fun width hw => SoundAt.lift fun height _ => ?_
  apply sound_timed (ht (Invocation.text?_of_number hw))
  exact fun _ _ _ h => h

theorem sound_moveWindow (ht : (inv.text? "ix").isSome → (inv.text? "tag").isSome) :
    SoundAt (Touch inv.scene) (moveWindow inv) s := by
  refine SoundAt.lift fun x hx => SoundAt.lift fun y _ => ?_
  apply sound_timed (ht (Invocation.text?_of_number hx))
  exact fun _ _ _ h => h

theorem sound_remove : SoundAt (Touch inv.scene) (remove inv) s := by
  apply SureAt.sound
  apply SureAt.returning
  apply sure_toEach_of_holds
  exact fun _ _ h => h

theorem sound_motion : SoundAt (Touch inv.scene) (motion inv) s := by
  unfold motion
  dsimp only
  split
  · exact ((sure_duration _).bind fun _ _ _ => sure_pure _).sound
  · split
    · split
      · exact (sure_pure _).sound
      · exact .throw _
    · exact (sure_pure _).sound

theorem sound_move (ht : (inv.text? "x").isSome → (inv.text? "tag").isSome) :
    SoundAt (Touch inv.scene) (move inv) s := by
  refine SoundAt.lift fun x hx => SoundAt.lift fun y _ => sound_motion.bind fun _ _ _ => ?_
  apply sure_toSprite (ht (Invocation.text?_of_number hx))
  exact fun _ h => h

theorem sound_numberTimed {name what : String} {effect : Float → Float → String → Effect}
    (ht : (inv.text? name).isSome → (inv.text? "tag").isSome)
    (h : ∀ stage x seconds tag, stage.hasSprite tag →
      (effect x seconds tag).Fits stage inv.scene) :
    SoundAt (Touch inv.scene)
      (liftM (inv.number name what) >>= fun x =>
        seconds inv >>= fun seconds => toSprite inv "tag" (effect x seconds)) s := by
  refine SoundAt.lift fun x hx => ?_
  apply sound_timed (ht (Invocation.text?_of_number hx))
  exact fun stage seconds tag hs => h stage x seconds tag hs

theorem leads_numberTimed {name what : String} {effect : Float → Float → String → Effect}
    (h : ∀ stage x seconds tag, stage.hasSprite tag →
      (effect x seconds tag).Fits stage inv.scene) :
    LeadsAt (Touch inv.scene)
      (liftM (inv.number name what) >>= fun x =>
        seconds inv >>= fun seconds => toSprite inv "tag" (effect x seconds)) s :=
  LeadsAt.lift fun x _ => leads_timed fun stage seconds tag hs => h stage x seconds tag hs

theorem sound_speed (ht : (inv.text? "speed").isSome → (inv.text? "tag").isSome) :
    SoundAt (Touch inv.scene) (speed inv) s :=
  sound_numberTimed ht fun _ _ _ _ h => h

theorem sound_blur (ht : (inv.text? "blur").isSome → (inv.text? "tag").isSome) :
    SoundAt (Touch inv.scene) (blur inv) s :=
  sound_numberTimed ht fun _ _ _ _ h => h

theorem sound_resize (ht : (inv.text? "width").isSome → (inv.text? "tag").isSome) :
    SoundAt (Touch inv.scene) (resize inv) s := by
  refine SoundAt.lift fun width hw => SoundAt.lift fun height _ => ?_
  apply sound_timed (ht (Invocation.text?_of_number hw))
  exact fun _ _ _ h => h

theorem sound_rescale (ht : (inv.text? "xpct").isSome → (inv.text? "tag").isSome) :
    SoundAt (Touch inv.scene) (rescale inv) s :=
  sound_numberTimed ht fun _ _ _ _ h => h

theorem sound_rotate (ht : (inv.text? "degrees").isSome → (inv.text? "tag").isSome) :
    SoundAt (Touch inv.scene) (rotate inv) s :=
  sound_numberTimed ht fun _ _ _ _ h => h

theorem sound_depth : SoundAt (Touch inv.scene) (depth inv) s := by
  refine SoundAt.lift fun amount _ => ?_
  apply sound_toSprite
  intro tag h
  split <;> exact h

theorem sound_frame : SoundAt (Touch inv.scene) (frame inv) s := by
  unfold frame
  split
  · refine SoundAt.lift fun x _ => ?_
    apply sound_toSprite
    exact fun _ h => h
  · apply sound_toSprite
    exact fun _ h => h

theorem sound_rate (ht : (inv.text? "value").isSome → (inv.text? "tag").isSome) :
    SoundAt (Touch inv.scene) (rate inv) s :=
  sound_numberTimed ht fun _ _ _ _ h => h

theorem sound_brightness (ht : (inv.text? "value").isSome → (inv.text? "tag").isSome) :
    SoundAt (Touch inv.scene) (brightness inv) s :=
  sound_numberTimed ht fun _ _ _ _ h => h

theorem sound_transparency (ht : (inv.text? "value").isSome → (inv.text? "tag").isSome) :
    SoundAt (Touch inv.scene) (transparency inv) s :=
  sound_numberTimed ht fun _ x _ _ h => ⟨h, x, rfl⟩

theorem sound_visibility (ht : (inv.text? "time").isSome → (inv.text? "tag").isSome) :
    SoundAt (Touch inv.scene) (visibility inv) s := by
  unfold visibility
  split
  · next time hn =>
    apply SureAt.sound
    apply SureAt.bind
    · rw [map_eq_pure_bind]
      exact (sure_duration _).bind fun _ _ _ => sure_pure _
    · intro _ _ _
      apply sure_toSprite (ht (by rw [hn]; rfl))
      exact fun _ h => h
  · apply sound_toSprite
    exact fun _ h => h

theorem leads_visibility : LeadsAt (Touch inv.scene) (visibility inv) s := by
  unfold visibility
  split
  · apply LeadsAt.bind
    · rw [map_eq_pure_bind]
      exact ((sure_duration _).bind fun _ _ _ => sure_pure _).sound.moves
    · intro _ _ _
      apply SoundAt.moves
      apply sound_toSprite
      exact fun _ h => h
  · apply SoundAt.moves
    apply sound_toSprite
    exact fun _ h => h

theorem sound_setPaused (paused : Bool) :
    SoundAt (Touch inv.scene) (setPaused paused inv) s := by
  apply SureAt.sound
  apply SureAt.returning
  apply sure_toEach_of_holds
  exact fun _ _ h => h

theorem sound_create : SoundAt (Touch inv.scene) (create inv) s := by
  refine SoundAt.lift fun name _ => ?_
  apply SoundAt.get
  apply SureAt.sound
  dsimp only
  split
  · exact sure_pure _
  · next hn =>
    apply SureAt.returning
    apply sure_send
    split <;> exact hn

theorem sound_setText : SoundAt (Touch inv.scene) (setText inv) s := by
  refine SoundAt.lift fun item _ => ?_
  apply SureAt.sound
  apply SureAt.returning
  apply sure_sendTo
  exact fun _ h => h

theorem sound_setFont : SoundAt (Touch inv.scene) (setFont inv) s := by
  refine SoundAt.lift fun item _ => SoundAt.lift fun name _ => SoundAt.lift fun feature _ => ?_
  apply SureAt.sound
  apply SureAt.returning
  apply sure_sendTo
  exact fun _ h => h

theorem sound_addToGroup : SoundAt (Touch inv.scene) (addToGroup inv) s := by
  refine SoundAt.lift fun tag _ => ?_
  apply SureAt.sound
  apply SureAt.resolve
  · intro group hg
    apply SureAt.returning
    apply sure_toEach fun stage => stage.hasImage group
    · exact fun _ _ hi hs => ⟨hi, hs⟩
    · exact fun _ _ hi => hi
    · exact hg
  · exact fun _ => sure_pure _

variable (start : Show → String → Show)

theorem run_startScenes (inv : Invocation) (s : Show) : (startScenes start inv).run.run s =
    (.ok .again, (inv.list "list").foldl start
      (if (inv.list "list").isEmpty then s.report (Problem.startedNothing.within inv.scene)
        else s)) := by
  unfold startScenes
  dsimp only
  split <;> rfl

theorem run_stopScenes (inv : Invocation) (s : Show) : (stopScenes inv).run.run s =
    (.ok .again, (if (inv.list "list").isEmpty then [inv.scene] else inv.list "list").foldl
      (fun s name => (s.stopScene name).2) s) :=
  rfl

theorem sound_startScenes : SoundAt (Move start inv.scene) (startScenes start inv) s := by
  refine .inr ⟨_, _, run_startScenes start inv s, ?_⟩
  have hf := moves_foldl (M := Move start inv.scene) fun s name => .single (.start s name)
  split
  · exact .head (.change s _ (.report s _)) (hf _ _)
  · exact hf _ _

theorem sound_stopScenes : SoundAt (Move start inv.scene) (stopScenes inv) s :=
  .inr ⟨_, _, run_stopScenes inv s, moves_foldl (fun s name => .single (.stop s name)) _ _⟩

theorem sound_assign : SoundAt (Change inv.scene) (assign inv) s := by
  refine SoundAt.lift fun name _ => ?_
  apply SureAt.sound
  apply SureAt.returning
  exact sure_modify (.single (.assign s name _))

theorem moves_dumpSection (s : Show) (name : String) :
    Relation.ReflTransGen (Touch inv.scene) s (dumpSection inv.scene s name) := by
  unfold dumpSection
  split
  · exact .single (.report s _)
  · exact moves_foldl (fun s line => .single (.send s (.echo line) trivial)) _ _

theorem sound_dump : SoundAt (Touch inv.scene) (dump inv) s := by
  apply SureAt.sound
  apply SureAt.returning
  apply sure_modify
  exact moves_foldl moves_dumpSection _ _

theorem sound_exit : SoundAt (Touch inv.scene) exit s := by
  apply SureAt.sound
  apply SureAt.returning
  exact sure_modify (.single (.exit s))

end Command

/-- The name of a value that the command reads before it remembers a duration. -/
def Handler.leading? : Handler → Option String
  | .zoomWindow => some "iw"
  | .moveWindow => some "ix"
  | .move => some "x"
  | .speed => some "speed"
  | .blur => some "blur"
  | .resize => some "width"
  | .rescale => some "xpct"
  | .rotate => some "degrees"
  | .rate | .brightness | .transparency => some "value"
  | .visibility => some "time"
  | _ => none

/-- The tag of a sprite is there whenever the leading value of the command is. -/
def Handler.Tagged (h : Handler) (inv : Invocation) : Prop :=
  ∀ name, h.leading? = some name → (inv.text? name).isSome → (inv.text? "tag").isSome

/-- A command that starts and stops no scene and assigns no variable fails before its first change,
or goes through by changes of its own. -/
theorem Handler.sound_touches (start : Show → String → Show) {h : Handler} (hstart : h ≠ .start)
    (hstop : h ≠ .stop) (hassign : h ≠ .assign) (ht : h.Tagged inv) :
    SoundAt (Touch inv.scene) (h.run start inv) s := by
  cases h with
  | echo => exact Command.sound_echo
  | useFolder => exact Command.sound_useFolder
  | load => exact Command.sound_load
  | unload => exact Command.sound_unload
  | play => exact Command.sound_play
  | volume => exact Command.sound_volume
  | place => exact Command.sound_place
  | put => exact Command.sound_put
  | window => exact Command.sound_window
  | zoomWindow => exact Command.sound_zoomWindow (ht _ rfl)
  | moveWindow => exact Command.sound_moveWindow (ht _ rfl)
  | remove => exact Command.sound_remove
  | move => exact Command.sound_move (ht _ rfl)
  | speed => exact Command.sound_speed (ht _ rfl)
  | blur => exact Command.sound_blur (ht _ rfl)
  | resize => exact Command.sound_resize (ht _ rfl)
  | rescale => exact Command.sound_rescale (ht _ rfl)
  | rotate => exact Command.sound_rotate (ht _ rfl)
  | depth => exact Command.sound_depth
  | frame => exact Command.sound_frame
  | rate => exact Command.sound_rate (ht _ rfl)
  | brightness => exact Command.sound_brightness (ht _ rfl)
  | transparency => exact Command.sound_transparency (ht _ rfl)
  | start => exact absurd rfl hstart
  | stop => exact absurd rfl hstop
  | visibility => exact Command.sound_visibility (ht _ rfl)
  | pause => exact Command.sound_setPaused true
  | resume => exact Command.sound_setPaused false
  | assign => exact absurd rfl hassign
  | create => exact Command.sound_create
  | setText => exact Command.sound_setText
  | setFont => exact Command.sound_setFont
  | addToGroup => exact Command.sound_addToGroup
  | dump => exact Command.sound_dump
  | exit => exact Command.sound_exit

theorem Handler.leads_touches (start : Show → String → Show) {h : Handler} (hstart : h ≠ .start)
    (hstop : h ≠ .stop) (hassign : h ≠ .assign) :
    LeadsAt (Touch inv.scene) (h.run start inv) s := by
  have hother (ht : h.leading? = none) : LeadsAt (Touch inv.scene) (h.run start inv) s :=
    (h.sound_touches start hstart hstop hassign fun name hn => by rw [ht] at hn; cases hn).moves
  cases h with
  | zoomWindow | moveWindow | resize =>
    refine LeadsAt.lift fun x _ => LeadsAt.lift fun y _ => Command.leads_timed ?_
    exact fun _ _ _ h => h
  | move =>
    refine LeadsAt.lift fun x _ => LeadsAt.lift fun y _ => ?_
    refine Command.sound_motion.moves.bind fun motion _ _ => SoundAt.moves ?_
    exact sound_toSprite fun _ h => h
  | speed | blur | rescale | rotate | rate | brightness =>
    exact Command.leads_numberTimed fun _ _ _ _ h => h
  | transparency => exact Command.leads_numberTimed fun _ x _ _ h => ⟨h, x, rfl⟩
  | visibility => exact Command.leads_visibility
  | start => exact absurd rfl hstart
  | stop => exact absurd rfl hstop
  | _ => exact hother rfl

/-- A command other than those that start and stop scenes fails before its first change, or goes
through by changes of its own. -/
theorem Handler.changes_run (start : Show → String → Show) {h : Handler} (hstart : h ≠ .start)
    (hstop : h ≠ .stop) (ht : h.Tagged inv) :
    SoundAt (Change inv.scene) (h.run start inv) s := by
  by_cases hassign : h = .assign
  · subst hassign
    exact Command.sound_assign
  · exact (h.sound_touches start hstart hstop hassign ht).mono fun _ _ => And.left

/-- A command fails before its first change, or goes through by moves of its scene. -/
theorem Handler.sound_run (start : Show → String → Show) (h : Handler) (ht : h.Tagged inv) :
    SoundAt (Move start inv.scene) (h.run start inv) s := by
  by_cases hstart : h = .start
  · subst hstart
    exact Command.sound_startScenes start
  · by_cases hstop : h = .stop
    · subst hstop
      exact Command.sound_stopScenes start
    · exact (h.changes_run start hstart hstop ht).mono .change

end Showrunner
