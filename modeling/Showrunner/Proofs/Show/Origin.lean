import Showrunner.Proofs.Show.Depth
import Showrunner.Proofs.Show.Play

/-!
Where effects come from. Main statement: what is sent in the course of some calls is sent by a
command that is found for a line, and the line is one that an action came to in the course or that
the host ran (`stems_course`).
-/

namespace Showrunner

/-- In some show the command sends the effect. Of a command that starts scenes this leaves out what
the scenes send. -/
def Handler.Sends (handler : Handler) (inv : Invocation) (e : Effect) : Prop :=
  ∃ s, e ∈ Show.sentSince s ((handler.run Show.startNone inv).run.run s).2

namespace Show

/-- An action that was performed for a scene came to a line. -/
def CameTo (es : List Event) (line scene : String) : Prop :=
  ∃ m text, .performs m text scene ∈ es ∧ m.lineOf? text scene = some line

/-- What is sent for a scene is sent by a command that is found for a line. The line is one that an
action came to, or one of those given. -/
def Stems (r : Registry) (given : String → String → Prop) (es : List Event) : Prop :=
  ∀ scene e, .sends scene e ∈ es → ∃ line c found, (CameTo es line scene ∨ given line scene) ∧
    r.find? (Text.words line) = some (c, found) ∧ c.handler.Sends ⟨scene, found⟩ e

variable {r : Registry} {given given' : String → String → Prop} {es fs : List Event}
  {n index : Nat} {s t : Show} {task : Task} {line text scene name : String}
  {generation : Option Nat} {positions : List Nat} {clock : FrameClock} {input : Input}
  {q : Show × Input}

theorem CameTo.mono (h : CameTo es line scene) (hi : es ⊆ fs) : CameTo fs line scene := by
  obtain ⟨m, text, hm, hl⟩ := h
  exact ⟨m, text, hi hm, hl⟩

namespace Stems

theorem of_no_sends (h : ∀ scene e, .sends scene e ∉ es) : Stems r given es :=
  fun scene e he => absurd he (h scene e)

theorem nil : Stems r given [] := .of_no_sends fun _ _ => List.not_mem_nil

theorem mono (h : Stems r given es) (hi : ∀ line scene, given line scene → given' line scene) :
    Stems r given' es := by
  intro scene e he
  obtain ⟨line, c, found, hl, hf, hs⟩ := h scene e he
  exact ⟨line, c, found, hl.imp_right (hi line scene), hf, hs⟩

theorem append (h : Stems r given es) (k : Stems r given fs) : Stems r given (es ++ fs) := by
  intro scene e he
  rcases List.mem_append.mp he with he | he
  · obtain ⟨line, c, found, hl, hfound⟩ := h scene e he
    exact ⟨line, c, found, hl.imp_left fun hl => hl.mono (List.subset_append_left ..), hfound⟩
  · obtain ⟨line, c, found, hl, hfound⟩ := k scene e he
    exact ⟨line, c, found, hl.imp_left fun hl => hl.mono (List.subset_append_right ..), hfound⟩

theorem starts (h : Stems r given es) (name : String) : Stems r given (.starts name :: es) := by
  have hstarts : Stems r given [.starts name] := .of_no_sends fun _ _ => by simp
  exact hstarts.append h

theorem performs (h : Stems r (fun l sc => Task.line line scene = .line l sc) es)
    (hl : s.lineOf? text scene = some line) :
    Stems r given (.performs s text scene :: es) := by
  intro owner e he
  obtain ⟨l, c, found, hcame, hfound⟩ := h owner e (by simpa using he)
  refine ⟨l, c, found, .inl ?_, hfound⟩
  rcases hcame with hcame | hgiven
  · exact hcame.mono (List.subset_cons_self ..)
  · cases hgiven
    exact ⟨s, text, List.mem_cons_self, hl⟩

end Stems

theorem Stems.stopEvents (s : Show) (name : String) : Stems r given (s.stopEvents name) := by
  refine .of_no_sends fun scene e => ?_
  unfold Show.stopEvents
  split
  · simp
  · split <;> simp

theorem Stems.along {α : Type} {f : Show → α → Show} {events : Show → α → List Event}
    (h : ∀ s a, Stems r given (events s a)) (s : Show) (as : List α) :
    Stems r given (Show.along f events s as) := by
  induction as generalizing s with
  | nil => exact .nil
  | cons a as ih => exact (h s a).append (ih (f s a))

theorem stems_line (hn : ∀ found, ¬ s.StartsBy line found) :
    Stems s.registry (fun l sc => Task.line line scene = .line l sc)
      (lineEvents startNone noEvents s line scene) := by
  unfold lineEvents
  cases hf : s.registry.find? (Text.words line) with
  | none => exact .nil
  | some found =>
    obtain ⟨c, found⟩ := found
    have hstart : c.handler ≠ .start := fun h => hn found ⟨c, hf, h⟩
    unfold handlerEvents
    dsimp only
    rw [if_neg hstart]
    split
    · exact .along (fun s name => .stopEvents s name) _ _
    · intro owner e he
      obtain ⟨d, hd, heq⟩ := List.mem_map.mp he
      cases heq
      exact ⟨line, c, found, .inr rfl, hf, _, hd⟩

/-- What a task sends stems from the actions that it performs, or from its line. -/
theorem Executes.stems (h : Executes n s task es t) :
    Stems s.registry (fun line scene => task = .line line scene) es := by
  induction h with
  | unknown | refused | startsNone | beginsDone | beginsCut => exact .nil
  | accepted hi hc _ _ ih =>
    have hr := (Rebuilt.rebuild (getElem?_of_sceneIndex? hi hc)).registry
    exact ((hr ▸ ih).mono fun _ _ => nofun).starts _
  | startsNext h _ ih ihrest =>
    exact (ih.mono fun _ _ => nofun).append ((h.evolves.registry ▸ ihrest).mono fun _ _ => nofun)
  | @lineStarts _ s _ _ scene found _ _ _ ih =>
    exact ((AfterReading.called s scene found).registry ▸ ih).mono fun _ _ => nofun
  | lineOther hf => exact stems_line hf
  | actNone => exact .of_no_sends fun _ _ => by simp
  | actLine hl _ ih => exact ih.performs hl
  | beginsNext _ h _ ih ihrest =>
    exact (ih.mono fun _ _ => nofun).append ((h.evolves.registry ▸ ihrest).mono fun _ _ => nofun)

theorem ExecutesDue.registry (h : ExecutesDue index scene generation n s positions es t) :
    t.registry = s.registry := by
  induction h with
  | done => rfl
  | passed _ _ ih => exact ih
  | cut _ h => exact h.evolves.registry
  | next _ h _ _ ih => exact ih.trans h.evolves.registry

theorem ExecutesDue.stems (h : ExecutesDue index scene generation n s positions es t) :
    Stems s.registry (fun _ _ => False) es := by
  induction h with
  | done => exact .nil
  | passed _ _ ih => exact ih
  | @cut _ s _ _ _ kind _ _ _ h =>
    have hs : Stems (s.announce kind).registry _ _ := h.stems
    exact hs.mono fun _ _ => nofun
  | @next _ _ s t _ _ _ kind _ _ _ _ h _ _ ih =>
    have hs : Stems (s.announce kind).registry _ _ := h.stems
    have hr : t.registry = s.registry := h.evolves.registry
    have hrest : Stems t.registry _ _ := ih
    exact (hs.mono fun _ _ => nofun).append (hr ▸ hrest)

theorem ExecutesTurns.registry (h : ExecutesTurns s clock input n index es q) :
    q.1.registry = s.registry := by
  induction h with
  | opened => exact (Still.opened s clock input).registry
  | passed _ _ ih => exact ih
  | @served _ _ _ _ _ r c _ _ _ _ _ _ _ hu k ih =>
    have ht := (AfterReading.updateTriggers c.name c.triggers r.2 r.1).registry
    rw [hu] at ht
    exact (k.registry.trans ht).trans ih

theorem ExecutesTurns.stems (h : ExecutesTurns s clock input n index es q) :
    Stems s.registry (fun _ _ => False) es := by
  induction h with
  | opened => exact .nil
  | passed _ _ ih => exact ih
  | @served _ _ _ _ _ r c updated _ t _ h _ _ hu k ih =>
    have ht := (AfterReading.updateTriggers c.name c.triggers r.2 r.1).registry
    rw [hu] at ht
    have hs : Stems (t.modifyScene _ fun c => { c with triggers := updated }).registry _ _ :=
      k.stems
    exact ih.append ((ht.trans h.registry) ▸ hs)

theorem registry_run (s : Show) (c : Call) : (c.run s).registry = s.registry := by
  cases c with
  | install script => exact registry_install s script
  | begin clock =>
    obtain ⟨_, _, h⟩ := executes_start (s.setClock clock) topLevel
    exact h.evolves.registry
  | startScene name =>
    obtain ⟨_, _, h⟩ := executes_start s name
    exact h.evolves.registry
  | stopScene name => exact (Evolves.stopScene s name).registry
  | command line scene =>
    obtain ⟨_, _, h⟩ := executes_line (obeys_startScene s.startDepth) rfl line scene
    exact h.evolves.registry
  | frame clock input =>
    obtain ⟨_, _, h⟩ := executesTurns_turn s clock input s.scenes.length
    rw [← frame_eq_turn] at h
    exact h.registry
  | readDuration text => exact (AfterReading.readDuration s text).registry
  | resolveTag kind scene tag => exact (AfterReading.resolveTag s kind scene tag).registry
  | assign | send | setImageSize | report | takeDiagnostics | requestExit => rfl

theorem stems_run (s : Show) (c : Call) :
    Stems s.registry (fun line scene => c = .command line scene) (c.events s) := by
  cases c with
  | begin clock =>
    obtain ⟨_, _, h⟩ := executes_start (s.setClock clock) topLevel
    exact h.stems.mono fun _ _ => nofun
  | startScene name =>
    obtain ⟨_, _, h⟩ := executes_start s name
    exact h.stems.mono fun _ _ => nofun
  | stopScene name => exact .stopEvents s name
  | command line scene =>
    obtain ⟨_, _, h⟩ := executes_line (obeys_startScene s.startDepth) rfl line scene
    refine h.stems.mono fun l sc ht => ?_
    cases ht
    rfl
  | frame clock input =>
    obtain ⟨_, _, h⟩ := executesTurns_turn s clock input s.scenes.length
    exact h.stems.mono fun _ _ => False.elim
  | install | readDuration | resolveTag | assign | send | setImageSize | report
  | takeDiagnostics | requestExit => exact .nil

/-- What is sent in the course of some calls stems from the actions that are performed in it, or
from a line that the host runs. -/
theorem stems_course (s : Show) (calls : List Call) :
    Stems s.registry (fun line scene => .command line scene ∈ calls) (s.course calls) := by
  unfold course
  induction calls generalizing s with
  | nil => exact .nil
  | cons c calls ih =>
    have hrest := registry_run s c ▸ ih (c.run s)
    refine ((stems_run s c).mono fun line scene hc => ?_).append
      (hrest.mono fun line scene => List.mem_cons_of_mem c)
    rw [← hc]
    exact List.mem_cons_self

end Show
end Showrunner
