import Showrunner.Disk.Folder
import Showrunner.Proofs.Show.Running

namespace Showrunner

/-- The host leaves the stage to the scripts. It may read further scripts at any time. -/
def Call.LeavesStage : Call → Prop
  | send _ | setImageSize .. => False
  | _ => True

theorem Call.LeavesStage.drives_or_installs {c : Call} (h : c.LeavesStage) :
    c.Drives True ∨ ∃ script, c = .install script := by
  cases c with
  | install script => exact .inr ⟨script, rfl⟩
  | send | setImageSize => exact h.elim
  | _ => exact .inl trivial

def Stage.Takes (stage : Stage) : Event → Prop
  | .sends scene effect => effect.Fits stage scene
  | _ => True

/-- What each event sends fits the stage that the events before it leave. -/
def Stage.Plays : Stage → List Event → Prop
  | _, [] => True
  | stage, e :: es => stage.Takes e ∧ (stage.after e).Plays es

theorem Stage.Plays.append {stage : Stage} {es fs : List Event} (h : stage.Plays es)
    (k : (es.foldl Stage.after stage).Plays fs) : stage.Plays (es ++ fs) := by
  induction es generalizing stage with
  | nil => exact k
  | cons e es ih => exact ⟨h.1, ih h.2 k⟩

namespace Show

variable {hosted : Prop} {s t : Show} {e : Event} {es : List Event}

theorem Happens.takes (h : Happens hosted s e t) : s.stage.Takes e := by
  cases h with
  | sends he _ => exact he
  | starts | stops | performs => trivial

theorem Course.plays (h : Course hosted s es t) : s.stage.Plays es := by
  induction h with
  | refl => trivial
  | still hs _ ih => exact hs.stage ▸ ih
  | step he _ ih => exact ⟨he.takes, he.stage_eq ▸ ih⟩

theorem registry_install (s : Show) (script : Script) :
    (s.install script).registry = s.registry := by
  have hadd : ∀ (s : Show) (c : Scene), (s.addScene c).registry = s.registry := by
    intro s c
    unfold addScene
    split <;> rfl
  have hfold : ∀ (scenes : List Scene) (s : Show),
      (scenes.foldl addScene s).registry = s.registry := by
    intro scenes
    induction scenes with
    | nil => exact fun _ => rfl
    | cons c scenes ih => exact fun s => (ih (s.addScene c)).trans (hadd s c)
  exact hfold _ _

/-- The stage after some calls is what is told of them makes of the stage before, and each effect
fits the stage at its moment. -/
theorem plays_calls (hb : s.registry = .builtin) {calls : List Call}
    (hc : ∀ c ∈ calls, c.LeavesStage) :
    (calls.foldl Call.run s).stage = (s.course calls).foldl Stage.after s.stage ∧
      s.stage.Plays (s.course calls) := by
  unfold course
  induction calls generalizing s with
  | nil => exact ⟨rfl, trivial⟩
  | cons c calls ih =>
    have hrest : ∀ d ∈ calls, d.LeavesStage := fun d hd => hc d (List.mem_cons_of_mem _ hd)
    rcases (hc c List.mem_cons_self).drives_or_installs with hd | ⟨script, rfl⟩
    · have hrun := course_run hd hb
      obtain ⟨hstage, hplays⟩ := ih (hrun.registry.trans hb) hrest
      rw [hrun.stage_eq] at hstage hplays
      exact ⟨hstage.trans (List.foldl_append ..).symm, hrun.plays.append hplays⟩
    · have hi := ih ((registry_install s script).trans hb) hrest
      rwa [stage_install] at hi

def soundShow : Show :=
  .start (640, 480) 30 Expression.evaluate .still (Disk.bare.add ⟨"beep.wav"⟩ (.file (some "")))

/-- With the patterns of the table the show can be run without compiling any. -/
theorem soundShow_eq_tabled : soundShow = { soundShow with registry := .tabled } := by
  rw [← builtin_eq_tabled]
  rfl

def beginScript (lines : List String) : Script :=
  ⟨[.ofContent topLevel ⟨"."⟩ ("begin" :: lines)], []⟩

def beginCalls (lines : List String) : List Call :=
  [.install (beginScript lines), .begin ⟨0, .midnight⟩]

theorem leavesStage_beginCalls (lines : List String) : ∀ c ∈ beginCalls lines, c.LeavesStage := by
  simp [beginCalls, Call.LeavesStage]

theorem reachable_beginCalls {lines : List String} (h : (beginScript lines).Loaded) :
    Reachable (fun c => c.Proper ∧ c.LeavesStage)
      ((beginCalls lines).foldl Call.run soundShow) := by
  refine (Reachable.start ..).calls fun c hc => ⟨?_, leavesStage_beginCalls lines c hc⟩
  simp only [beginCalls, List.mem_cons, List.not_mem_nil, or_false] at hc
  rcases hc with rfl | rfl
  · exact h
  · trivial

end Show
end Showrunner
