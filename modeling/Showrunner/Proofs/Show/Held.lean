import Showrunner.Proofs.Show.Build
import Showrunner.Proofs.Show.Depth
import Showrunner.Proofs.Variables.Ownership

/-!
A variable of the top level keeps its value while no action assigns it. Main statement:
`frame_holds`.
-/

namespace Showrunner

open Relation Variables

def Show.lineAssigns? (s : Show) (line scene : String) : Option String :=
  (s.registry.find? (Text.words line)).bind fun (c, found) =>
    if c.handler = .assign then (found.text? "name").map (qualify · scene) else none

def Event.assigned? : Event → Option String
  | .performs moment text scene => (moment.lineOf? text scene).bind (moment.lineAssigns? · scene)
  | _ => none

namespace Show

def Holds (name : String) (s t : Show) : Prop :=
  t.vars.get? name topLevel = s.vars.get? name topLevel

/-- A line that is to be run does not assign the variable. -/
def Task.Spares (name : String) (s : Show) : Task → Prop
  | .line text scene => s.lineAssigns? text scene ≠ some name
  | _ => True

variable {name : String} {n index : Nat} {s t u : Show} {task : Task} {es : List Event}

theorem Holds.trans (h : Holds name s t) (k : Holds name t u) : Holds name s u := Eq.trans k h

theorem Holds.get?_eq {value : Option String} (h : Holds name s t)
    (hs : s.vars.get? name topLevel = value) : t.vars.get? name topLevel = value :=
  Eq.trans h hs

theorem holds_of_vars (h : t.vars = s.vars) : Holds name s t := by rw [Holds, h]

section

variable (hn : Plain name)
include hn

theorem holds_setVar {other scene : String} (h : qualify other scene ≠ name) (value : String) :
    Holds name s (s.setVar other value scene) := by
  unfold Holds
  rw [hn.get?_topLevel, hn.get?_topLevel]
  exact (Table.get?_insert ..).trans (if_neg h.symm)

theorem get?_setVar (s : Show) (value : String) :
    (s.setVar name value topLevel).vars.get? name topLevel = some value := by
  have hi := Table.get?_insert s.vars.values (qualify name topLevel) name value
  rw [hn.get?_topLevel]
  rw [hn.qualify_topLevel, if_pos rfl] at hi
  unfold setVar Variables.set
  rw [hn.qualify_topLevel]
  exact hi

theorem holds_stopScene (s : Show) (scene : String) : Holds name s (s.stopScene scene).2 := by
  unfold stopScene
  split
  · split
    · exact rfl
    · next owner _ _ _ =>
      unfold Holds
      rw [hn.get?_topLevel, hn.get?_topLevel]
      have hk := Table.get?_filter s.vars.values (fun key _ => !isOwned owner.name key) name
      rw [hn.not_isOwned] at hk
      refine hk.trans ?_
      cases s.vars.values.get? name <;> rfl
  · exact rfl

theorem holds_handler {handler : Handler} (hstart : handler ≠ .start) {inv : Invocation}
    (ha : handler = .assign → (inv.text? "name").map (qualify · inv.scene) ≠ some name)
    (start : Show → String → Show) : Holds name s ((handler.run start inv).run.run s).2 := by
  -- stopping drops variables that scenes own, assigning changes the one that is named, and no
  -- other command touches any
  by_cases hstop : handler = .stop
  · subst hstop
    rw [Handler.run, Command.run_stopScenes]
    generalize (if (inv.list "list").isEmpty then [inv.scene] else inv.list "list") = scenes
    induction scenes generalizing s with
    | nil => exact rfl
    | cons scene scenes ih => exact (holds_stopScene hn s scene).trans ih
  · by_cases hassign : handler = .assign
    · have hne := ha hassign
      subst hassign
      rw [Handler.run]
      unfold Command.assign Invocation.required
      cases ht : inv.text? "name" with
      | none => exact rfl
      | some other =>
        rw [ht] at hne
        exact holds_setVar hn (fun h => hne (congrArg some h)) _
    · have hm : Act.LeadsAt (Touch inv.scene) (handler.run start inv) s :=
        handler.leads_touches start hstart hstop hassign
      exact holds_of_vars (Touch.vars_eq hm)

theorem holds_line {line scene : String} (hf : ∀ found, ¬ s.StartsBy line found)
    (ha : s.lineAssigns? line scene ≠ some name) :
    Holds name s (dispatch startNone s line scene).2 := by
  rcases dispatch_cases startNone s line scene with h | ⟨c, found, hc, h⟩
  · exact holds_of_vars h.vars
  · have hstart : c.handler ≠ .start := fun h => hf found ⟨c, hc, h⟩
    have hassign : c.handler = .assign → (found.text? "name").map (qualify · scene) ≠ some name :=
      fun h => by simpa [lineAssigns?, hc, h] using ha
    have hreceived : Holds name s (s.received scene found) :=
      holds_of_vars (AfterReading.received s scene found).vars
    exact hreceived.trans ((holds_handler hn hstart hassign startNone).trans (holds_of_vars h.vars))

theorem holds_announce (ht : name ≠ "TRIGGER") (s : Show) (kind : Trigger.Kind) :
    Holds name s (s.announce kind) :=
  have hq : qualify "TRIGGER" topLevel = "TRIGGER" := rfl
  holds_setVar hn (fun h => ht (h.symm.trans hq)) kind.name

/-- A variable that no action assigns keeps its value, whatever else is done. -/
theorem Executes.holds (ht : name ≠ "TRIGGER") (h : Executes n s task es t)
    (hes : ∀ e ∈ es, e.assigned? ≠ some name) (htask : task.Spares name s) : Holds name s t := by
  induction h with
  | unknown | refused | startsNone | beginsDone | beginsCut => exact rfl
  | @accepted _ s _ _ index c _ hi hc _ _ ih =>
    have hr : (s.rebuild index c).vars = s.vars :=
      (rebuild_afterReading (getElem?_of_sceneIndex? hi hc)).vars
    exact (holds_of_vars (t := { s.rebuild index c with startDepth := _ }) hr).trans
      (ih (fun e he => hes e (List.mem_cons_of_mem _ he)) trivial)
  | startsNext _ _ ih ihrest =>
    exact (ih (fun e he => hes e (List.mem_append_left _ he)) trivial).trans
      (ihrest (fun e he => hes e (List.mem_append_right _ he)) trivial)
  | lineStarts _ _ ih =>
    exact (holds_of_vars (AfterReading.called _ _ _).vars).trans (ih hes trivial)
  | lineOther hf => exact holds_line hn hf htask
  | actNone hl =>
    obtain ⟨p, -, hp | ⟨err, hp⟩⟩ := perform_of_lineOf?_eq_none startNone hl
    · rw [hp]
      exact rfl
    · rw [hp]
      exact rfl
  | @actLine _ s _ text scene line _ hl _ ih =>
    have ha : s.lineAssigns? line scene ≠ some name := by
      have hfirst := hes (.performs s text scene) List.mem_cons_self
      rwa [Event.assigned?, hl] at hfirst
    exact ih (fun e he => hes e (List.mem_cons_of_mem _ he)) ha
  | beginsNext _ _ _ ih ihrest =>
    exact ((holds_announce hn ht _ _).trans
      (ih (fun e he => hes e (List.mem_append_left _ he)) trivial)).trans
        (ihrest (fun e he => hes e (List.mem_append_right _ he)) trivial)

theorem ExecutesDue.holds (ht : name ≠ "TRIGGER") {scene : String} {generation : Option Nat}
    {positions : List Nat} (h : ExecutesDue index scene generation n s positions es t)
    (hes : ∀ e ∈ es, e.assigned? ≠ some name) : Holds name s t := by
  induction h with
  | done => exact rfl
  | passed _ _ ih => exact ih hes
  | cut _ h => exact (holds_announce hn ht _ _).trans (h.holds hn ht hes trivial)
  | next _ h _ _ ih =>
    exact ((holds_announce hn ht _ _).trans
      (h.holds hn ht (fun e he => hes e (List.mem_append_left _ he)) trivial)).trans
        (ih fun e he => hes e (List.mem_append_right _ he))

theorem ExecutesTurns.holds (ht : name ≠ "TRIGGER") {clock : FrameClock} {input : Input}
    {r : Show × Input} (h : ExecutesTurns s clock input n index es r)
    (hes : ∀ e ∈ es, e.assigned? ≠ some name) : Holds name (s.opened clock input).1 r.1 := by
  induction h with
  | opened => exact rfl
  | passed _ _ ih => exact ih hes
  | @served _ _ _ _ _ r c _ _ t u _ _ _ hu k ih =>
    have hr := (AfterReading.updateTriggers c.name c.triggers r.2 r.1).vars
    rw [hu] at hr
    have hdue := k.holds hn ht fun e he => hes e (List.mem_append_right _ he)
    have hk : Holds name t u := hdue
    exact ((ih fun e he => hes e (List.mem_append_left _ he)).trans (holds_of_vars hr)).trans hk

/-- A variable that no action assigns has the same value after a frame as when the input was
published. -/
theorem frame_holds (ht : name ≠ "TRIGGER") (s : Show) (clock : FrameClock) (input : Input)
    (hes : ∀ e ∈ s.frameEvents clock input, e.assigned? ≠ some name) :
    Holds name (s.opened clock input).1 (s.frame clock input).1 := by
  obtain ⟨_, _, h⟩ := executesTurns_turn s clock input s.scenes.length
  rw [← frame_eq_turn] at h
  exact h.holds hn ht hes

end

end Show
end Showrunner
