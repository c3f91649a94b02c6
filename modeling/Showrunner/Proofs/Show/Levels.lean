import Showrunner.Proofs.Decimal.Quotient
import Showrunner.Proofs.Show.Emits
import Showrunner.Proofs.Show.Origin

/-!
Levels stay in their range. Main statement: what is sent as a volume or as a transparency was read
from a line, and it lies between nothing and the greatest level unless the line spells what is not
a number (`levels_in_range`).
-/

namespace Showrunner

open Act Show

inductive Scale where
  | volume
  | transparency

namespace Scale

def handler : Scale → Handler
  | volume => .volume
  | transparency => .transparency

def greatest : Scale → Float
  | volume => 1
  | transparency => 100

def level (x : Float) : Scale → Float
  | volume => Command.clamp 0 100 x / 100
  | transparency => Command.clamp 0 100 x

end Scale

def Effect.level? : Effect → Option (Scale × Float)
  | .setVolume _ volume => some (.volume, volume)
  | .setTransparency _ amount _ => some (.transparency, amount)
  | _ => none

/-- A level that the effect sets is read from the value of the command. -/
def Effect.Heeds (handler : Handler) (inv : Invocation) (e : Effect) : Prop :=
  ∀ scale v, e.level? = some (scale, v) → handler = scale.handler ∧
    ∃ word x, inv.text? "value" = some word ∧ Decimal.read? word = some x ∧ v = scale.level x

variable {inv : Invocation} {s : Show} {e : Effect}

theorem Effect.heeds_of_none {handler : Handler} (h : e.level? = none) : e.Heeds handler inv := by
  intro scale v hv
  rw [h] at hv
  cases hv

theorem Effect.heeds_of_number (scale : Scale) {what : String} {x : Float}
    (hx : inv.number "value" what = .ok x) (he : e.level? = some (scale, scale.level x)) :
    e.Heeds scale.handler inv := by
  intro scale' v hv
  rw [he] at hv
  cases hv
  refine ⟨rfl, ?_⟩
  unfold Invocation.number at hx
  split at hx
  · cases hx
  · next word hw =>
    split at hx
    · next y hy =>
      cases hx
      exact ⟨word, x, hw, hy, rfl⟩
    · cases hx

open Effect (heeds_of_none heeds_of_number)

namespace Command

variable {handler : Handler}

theorem heeds_load : LeadsAt (Emits (Effect.Heeds handler inv)) (load inv) s := by
  refine .lift fun file _ => (emits_still rfl).bind fun s' _ _ => ?_
  split
  · exact .refl
  · dsimp only
    split
    · exact emits_pure _
    · split
      · exact (emits_report _).returning _
      · split
        · exact (emits_report _).returning _
        · exact (emits_send (heeds_of_none rfl)).returning _

theorem heeds_useFolder : LeadsAt (Emits (Effect.Heeds handler inv)) (useFolder inv) s := by
  refine LeadsAt.bind (emits_still rfl) fun s' _ _ => ?_
  split
  · exact .refl
  · exact LeadsAt.returning (emits_still rfl) _

theorem heeds_place : LeadsAt (Emits (Effect.Heeds handler inv)) (place inv) s := by
  refine .lift fun image _ => .lift fun x _ => .lift fun y _ => ?_
  refine LeadsAt.bind (emits_still rfl) fun _ _ _ => LeadsAt.bind (emits_still rfl) fun _ _ _ => ?_
  split
  · refine (emits_send (heeds_of_none rfl)).bind fun _ _ _ => ?_
    split
    · exact (emits_send (heeds_of_none rfl)).returning _
    · exact emits_pure _
  · exact (emits_sendTo fun _ => heeds_of_none rfl).returning _

theorem heeds_put : LeadsAt (Emits (Effect.Heeds handler inv)) (put inv) s := by
  refine .lift fun tag _ => (emits_resolve _ _).bind fun image _ _ => ?_
  cases image with
  | none => exact emits_pure _
  | some image =>
    refine LeadsAt.bind (emits_still rfl) fun _ _ _ => ?_
    dsimp only
    split
    · exact (emits_send (heeds_of_none rfl)).bind fun _ _ _ =>
        (emits_send (heeds_of_none rfl)).returning _
    · exact (emits_send (heeds_of_none rfl)).returning _

theorem heeds_move : LeadsAt (Emits (Effect.Heeds handler inv)) (move inv) s := by
  have hmotion : ∀ s, LeadsAt (Emits (Effect.Heeds handler inv)) (motion inv) s := by
    intro s
    unfold motion
    dsimp only
    split
    · exact (emits_duration _).bind fun _ _ _ => emits_pure _
    · split
      · split
        · exact emits_pure _
        · exact .refl
      · exact emits_pure _
  exact .lift fun x _ => .lift fun y _ => (hmotion s).bind fun _ _ _ =>
    emits_toSprite fun _ => heeds_of_none rfl

theorem heeds_depth : LeadsAt (Emits (Effect.Heeds handler inv)) (depth inv) s := by
  refine .lift fun amount _ => emits_toSprite fun tag => ?_
  split <;> exact heeds_of_none rfl

theorem heeds_frame : LeadsAt (Emits (Effect.Heeds handler inv)) (frame inv) s := by
  unfold frame
  split
  · exact .lift fun x _ => emits_toSprite fun _ => heeds_of_none rfl
  · exact emits_toSprite fun _ => heeds_of_none rfl

theorem heeds_visibility : LeadsAt (Emits (Effect.Heeds handler inv)) (visibility inv) s := by
  unfold visibility
  split
  · rw [map_eq_pure_bind, bind_assoc]
    exact (emits_duration _).bind fun _ _ _ => emits_toSprite fun _ => heeds_of_none rfl
  · exact emits_toSprite fun _ => heeds_of_none rfl

theorem heeds_create : LeadsAt (Emits (Effect.Heeds handler inv)) (create inv) s := by
  refine .lift fun name _ => LeadsAt.bind (emits_still rfl) fun _ _ _ => ?_
  dsimp only
  split
  · exact emits_pure _
  · refine (emits_send ?_).returning _
    split <;> exact heeds_of_none rfl

theorem heeds_addToGroup : LeadsAt (Emits (Effect.Heeds handler inv)) (addToGroup inv) s := by
  refine .lift fun tag _ => (emits_resolve _ _).bind fun group _ _ => ?_
  cases group with
  | none => exact emits_pure _
  | some group => exact (emits_toEach (fun _ => heeds_of_none rfl) _).returning _

theorem heeds_dump : LeadsAt (Emits (Effect.Heeds handler inv)) (dump inv) s := by
  refine (emits_modify (moves_foldl (fun s name => ?_) _ _)).returning _
  unfold dumpSection
  split
  · exact .single (.of_journal rfl)
  · exact moves_foldl (fun s line => .single (.send (heeds_of_none rfl))) _ _

end Command

/-- Only two commands set levels, each the one for the value that it reads. -/
theorem Handler.heeds (handler : Handler) :
    LeadsAt (Emits (Effect.Heeds handler inv)) (handler.run startNone inv) s := by
  have heach {kind : TagKind} {effect : String → Effect} {tags : List String} {outcome : Outcome}
      (h : ∀ name, (effect name).level? = none) :
      LeadsAt (Emits (Effect.Heeds handler inv))
        (toEach inv kind effect tags >>= fun _ => pure outcome) s :=
    (emits_toEach (fun name => heeds_of_none (h name)) tags).returning _
  cases handler with
  | echo => exact (emits_send (heeds_of_none rfl)).returning _
  | useFolder => exact Command.heeds_useFolder
  | load => exact Command.heeds_load
  | unload | play | remove | pause | resume => exact heach fun _ => rfl
  | volume =>
    exact .lift fun tag _ => .lift fun x hx =>
      (emits_sendTo fun _ => heeds_of_number .volume hx rfl).returning _
  | place => exact Command.heeds_place
  | put => exact Command.heeds_put
  | window =>
    exact .lift fun _ _ => .lift fun _ _ => .lift fun _ _ => .lift fun _ _ =>
      emits_toSprite fun _ => heeds_of_none rfl
  | zoomWindow | moveWindow | resize =>
    exact .lift fun _ _ => .lift fun _ _ => emits_timed fun _ _ => heeds_of_none rfl
  | move => exact Command.heeds_move
  | speed | blur | rescale | rotate | rate | brightness =>
    exact .lift fun _ _ => emits_timed fun _ _ => heeds_of_none rfl
  | transparency =>
    exact .lift fun x hx => emits_timed fun _ _ => heeds_of_number .transparency hx rfl
  | depth => exact Command.heeds_depth
  | frame => exact Command.heeds_frame
  | start => exact Command.emits_startNone
  | stop => exact Command.emits_stopScenes
  | visibility => exact Command.heeds_visibility
  | assign => exact .lift fun _ _ => LeadsAt.returning (emits_still rfl) _
  | create => exact Command.heeds_create
  | setText =>
    exact .lift fun _ _ => (emits_sendTo fun _ => heeds_of_none rfl).returning _
  | setFont =>
    exact .lift fun _ _ => .lift fun _ _ => .lift fun _ _ =>
      (emits_sendTo fun _ => heeds_of_none rfl).returning _
  | addToGroup => exact Command.heeds_addToGroup
  | dump => exact Command.heeds_dump
  | exit => exact LeadsAt.returning (emits_still rfl) _

theorem Handler.Sends.heeds {handler : Handler} (h : handler.Sends inv e) :
    e.Heeds handler inv := by
  obtain ⟨s, hs⟩ := h
  exact (Emits.of_moves handler.heeds).sentSince e hs

namespace Scale

variable {x : Float}

theorem level_mem (scale : Scale) (hx : ¬ x.isNaN) :
    0 ≤ scale.level x ∧ scale.level x ≤ scale.greatest := by
  have ⟨h0, h100⟩ : 0 ≤ Command.clamp 0 100 x ∧ Command.clamp 0 100 x ≤ 100 :=
    Decimal.clamp_mem (by decide) (by decide) (by decide) hx
  cases scale with
  | volume => exact Decimal.hundredth_mem h0 h100
  | transparency => exact ⟨h0, h100⟩

theorem isNaN_level (scale : Scale) (hx : x.isNaN) : (scale.level x).isNaN := by
  cases scale with
  | volume =>
    rw [level, Decimal.clamp_of_isNaN hx]
    exact Decimal.isNaN_div hx 100
  | transparency => rwa [level, Decimal.clamp_of_isNaN hx]

end Scale

namespace Show

/-- Each level that is sent in the course of some calls was read from the value of a line that an
action came to or that the host ran. It lies between nothing and the greatest level, with one
exception: a value that spells what is not a number gives a level that is none. -/
theorem levels_in_range (hb : s.registry = .builtin) {calls : List Call}
    (hc : ∀ c ∈ calls, c.LeavesStage) :
    (calls.foldl Call.run s).stage.journal.toList =
      s.stage.journal.toList ++ (s.course calls).filterMap Event.effect? ∧
    ∀ scene e scale v, .sends scene e ∈ s.course calls → e.level? = some (scale, v) →
      ∃ line c found word x, (CameTo (s.course calls) line scene ∨ .command line scene ∈ calls) ∧
        Registry.builtin.find? (Text.words line) = some (c, found) ∧ c.handler = scale.handler ∧
        found.text? "value" = some word ∧ Decimal.read? word = some x ∧ v = scale.level x ∧
        (¬ Decimal.SpellsNaN word → 0 ≤ v ∧ v ≤ scale.greatest) ∧
        (Decimal.SpellsNaN word → v.isNaN) := by
  constructor
  · rw [(plays_calls hb hc).1, Stage.journal_foldl_after]
  · intro scene e scale v he hv
    obtain ⟨line, c, found, hline, hf, hs⟩ := stems_course s calls scene e he
    obtain ⟨hh, word, x, hw, hx, rfl⟩ := hs.heeds scale v hv
    have hn := Decimal.isNaN_read? hx
    exact ⟨line, c, found, word, x, hline, hb ▸ hf, hh, hw, hx, rfl,
      fun h => scale.level_mem (mt hn.mp h), fun h => scale.isNaN_level (hn.mpr h)⟩

def volumeLines (value : String) : List String :=
  ["load beep.wav", "set volume of beep to " ++ value]

theorem levels_in_range_loud : ∃ scene tag v line c found word,
    .sends scene (.setVolume tag v) ∈ soundShow.course (beginCalls (volumeLines "150")) ∧
    Registry.builtin.find? (Text.words line) = some (c, found) ∧ c.handler = .volume ∧
    found.text? "value" = some word ∧ 0 ≤ v ∧ v ≤ 1 := by
  have hj : ((beginCalls (volumeLines "150")).foldl Call.run soundShow).stage.journal.toList.any
      (fun
      | .setVolume _ v => ¬ v.isNaN
      | _ => false) := by
    rw [soundShow_eq_tabled]
    decide +kernel
  obtain ⟨hjournal, hlevels⟩ :=
    levels_in_range (s := soundShow) rfl (leavesStage_beginCalls (volumeLines "150"))
  rw [hjournal] at hj
  obtain ⟨effect, he, hv⟩ := List.any_eq_true.mp hj
  obtain ⟨event, hm, hs⟩ := List.mem_filterMap.mp ((List.mem_append.mp he).resolve_left nofun)
  cases effect with
  | setVolume tag v =>
    cases event with
    | sends scene effect =>
      cases hs
      obtain ⟨line, c, found, word, x, -, hf, hh, hw, -, -, hin, hout⟩ :=
        hlevels scene _ _ v hm rfl
      have hword : ¬ Decimal.SpellsNaN word := mt hout (of_decide_eq_true hv)
      exact ⟨scene, tag, v, line, c, found, word, hm, hf, hh, hw, hin hword⟩
    | starts | stops | performs => cases hs
  | _ => cases hv

/-- So a script alone can set a volume that lies in no range. -/
theorem exists_volume_nan : ∃ s, Reachable (fun c => c.Proper ∧ c.LeavesStage) s ∧
    ∃ v, .setVolume "beep" v ∈ s.stage.journal.toList ∧ ¬ (0 ≤ v ∧ v ≤ 1) := by
  have hl : (beginScript (volumeLines "nan")).Loaded :=
    ⟨.empty, .inr ⟨"begin\nload beep.wav\nset volume of beep to nan\n", ⟨"."⟩, rfl⟩⟩
  refine ⟨_, reachable_beginCalls hl, ?_⟩
  have hj : ((beginCalls (volumeLines "nan")).foldl Call.run soundShow).stage.journal.toList.any
      (fun
      | .setVolume tag v => tag = "beep" ∧ ¬ (0 ≤ v ∧ v ≤ 1)
      | _ => false) := by
    rw [soundShow_eq_tabled]
    decide +kernel
  obtain ⟨effect, he, hv⟩ := List.any_eq_true.mp hj
  cases effect with
  | setVolume tag v =>
    obtain ⟨rfl, hout⟩ := of_decide_eq_true hv
    exact ⟨v, he, hout⟩
  | _ => cases hv

end Show
end Showrunner
