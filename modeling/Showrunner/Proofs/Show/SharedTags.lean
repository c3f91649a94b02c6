import Showrunner.Proofs.Show.Play
import Showrunner.Proofs.Table

/-!
Images and sounds have their tags in one namespace, with one exception: a text or a group can be
created under the tag of a sound. Main statement: `shares_iff_created`.
-/

namespace Showrunner

def Stage.Shares (stage : Stage) (tag : String) : Prop := stage.hasImage tag ∧ stage.hasSound tag

instance (stage : Stage) (tag : String) : Decidable (stage.Shares tag) :=
  inferInstanceAs (Decidable (_ ∧ _))

def Event.Creates (tag : String) : Event → Prop
  | .sends _ (.createGroup name _) | .sends _ (.createText name _) => name = tag
  | _ => False

def Event.Unloads (tag : String) : Event → Prop
  | .sends _ (.unloadResource name) => name = tag
  | _ => False

namespace Stage

variable {stage : Stage} {tag name : String} {e : Event} {es : List Event}

theorem hasImage_load (kind : ResourceKind) : (stage.load name kind).hasImage tag ↔
    (tag = name ∧ kind ≠ .sound) ∨ stage.hasImage tag := by
  unfold load
  split
  · next hk => simp [hk, hasImage]
  · next hk =>
    split
    · next hn => grind
    · simp [hk, hasImage, Table.contains_insert]

theorem hasSound_load (kind : ResourceKind) : (stage.load name kind).hasSound tag ↔
    (tag = name ∧ kind = .sound) ∨ stage.hasSound tag := by
  unfold load
  split
  · next hk => simp [hk, hasSound, Table.contains_insert]
  · next hk => split <;> simp [hk, hasSound]

theorem shares_load_iff {kind : ResourceKind}
    (h : ¬ stage.hasImage name ∧ ¬ stage.hasSound name) :
    (stage.load name kind).Shares tag ↔ stage.Shares tag := by
  unfold Shares
  rw [hasImage_load, hasSound_load]
  by_cases ht : tag = name
  · subst ht
    simp [h]
  · simp [ht]

/-- How an event can bring about or end that a tag is shared, given that the event fits. -/
theorem shares_after_iff (h : stage.Takes e) :
    (stage.after e).Shares tag ↔
      (e.Creates tag ∧ stage.hasSound tag) ∨ (stage.Shares tag ∧ ¬ e.Unloads tag) := by
  cases e with
  | starts | stops | performs =>
    simp [after, Event.Creates, Event.Unloads, removeScene, Shares, hasImage, hasSound]
  | sends scene effect =>
    change (stage.track effect).Shares tag ↔ _
    cases effect with
    | loadResource name path kind =>
      simp [track, shares_load_iff h, Event.Creates, Event.Unloads]
    | unloadResource name =>
      simp only [track, Shares, hasImage, hasSound, Table.contains_erase, Event.Creates,
        Event.Unloads]
      grind
    | createGroup name | createText name =>
      simp only [track, Shares, hasImage, hasSound, Table.contains_insert, Event.Creates,
        Event.Unloads]
      grind
    | setVolume name volume =>
      simp [track, Shares, hasImage, hasSound, Table.contains_modify, Event.Creates, Event.Unloads]
    | _ =>
      simp only [Event.Creates, Event.Unloads, false_and, false_or, not_false_eq_true, and_true]
      exact Iff.rfl

/-- Something is created under the tag while it is that of a sound, and is not unloaded since. -/
def CreatedOver (stage : Stage) (tag : String) (es : List Event) : Prop :=
  ∃ before e since, es = before ++ e :: since ∧ e.Creates tag ∧
    (before.foldl after stage).hasSound tag ∧ ∀ d ∈ since, ¬ d.Unloads tag

theorem createdOver_cons_iff : stage.CreatedOver tag (e :: es) ↔
    (e.Creates tag ∧ stage.hasSound tag ∧ ∀ d ∈ es, ¬ d.Unloads tag) ∨
      (stage.after e).CreatedOver tag es := by
  constructor
  · rintro ⟨before, c, since, hes, hc, hsound, hn⟩
    cases before with
    | nil =>
      cases hes
      exact .inl ⟨hc, hsound, hn⟩
    | cons b before =>
      obtain ⟨rfl, rfl⟩ := List.cons.inj hes
      exact .inr ⟨before, c, since, rfl, hc, hsound, hn⟩
  · rintro (⟨hc, hsound, hn⟩ | ⟨before, c, since, rfl, hc, hsound, hn⟩)
    · exact ⟨[], e, es, rfl, hc, hsound, hn⟩
    · exact ⟨e :: before, c, since, rfl, hc, hsound, hn⟩

/-- A tag is shared after some events if it was made so in their course, or was so before, and is
not unloaded since. -/
theorem shares_foldl_after_iff (h : stage.Plays es) : (es.foldl after stage).Shares tag ↔
    stage.CreatedOver tag es ∨ (stage.Shares tag ∧ ∀ d ∈ es, ¬ d.Unloads tag) := by
  induction es generalizing stage with
  | nil => simp [CreatedOver]
  | cons e es ih =>
    rw [List.foldl_cons, ih h.2, shares_after_iff h.1, createdOver_cons_iff, List.forall_mem_cons]
    tauto

end Stage

namespace Show

variable {s : Show} {calls : List Call}

/-- As long as the host leaves the stage to the scripts, a tag is that of an image and that of a
sound exactly if a text or a group was created under it while it was that of a sound, and it was
not unloaded since. To load a file never makes a tag that of both. -/
theorem shares_iff_created (hb : s.registry = .builtin) (he : s.stage = .empty)
    (hc : ∀ c ∈ calls, c.LeavesStage) :
    (calls.foldl Call.run s).stage = (s.course calls).foldl Stage.after .empty ∧
      ∀ tag, (calls.foldl Call.run s).stage.Shares tag ↔
        Stage.empty.CreatedOver tag (s.course calls) := by
  obtain ⟨hstage, hplays⟩ := plays_calls hb hc
  rw [he] at hstage hplays
  refine ⟨hstage, fun tag => ?_⟩
  rw [hstage, Stage.shares_foldl_after_iff hplays]
  have hempty : ¬ Stage.empty.Shares tag := fun h => by cases h.1
  simp [hempty]

def beepLines : List String := ["load beep.wav", "create text beep from hi"]

theorem shares_beepLines :
    ((beginCalls beepLines).foldl Call.run soundShow).stage.Shares "beep" := by
  rw [soundShow_eq_tabled]
  decide +kernel

theorem shares_iff_created_beep :
    Stage.empty.CreatedOver "beep" (soundShow.course (beginCalls beepLines)) :=
  ((shares_iff_created rfl rfl (leavesStage_beginCalls beepLines)).2 "beep").mp shares_beepLines

/-- So a script alone can bring it about that a tag is that of an image and that of a sound. -/
theorem exists_shared_beep : ∃ s, Reachable (fun c => c.Proper ∧ c.LeavesStage) s ∧
    s.stage.hasImage "beep" ∧ s.stage.hasSound "beep" :=
  have hl : (beginScript beepLines).Loaded :=
    ⟨.empty, .inr ⟨"begin\nload beep.wav\ncreate text beep from hi\n", ⟨"."⟩, rfl⟩⟩
  ⟨_, reachable_beginCalls hl, shares_beepLines⟩

end Show
end Showrunner
