import Showrunner.Proofs.Show.Course

namespace Showrunner

def Event.effect? : Event → Option Effect
  | sends _ effect => some effect
  | _ => none

def Stage.after (stage : Stage) : Event → Stage
  | .stops scene => stage.removeScene scene
  | .sends _ effect => stage.apply effect
  | _ => stage

theorem Stage.journal_after (stage : Stage) (e : Event) :
    (stage.after e).journal.toList = stage.journal.toList ++ e.effect?.toList := by
  cases e with
  | sends scene effect => exact stage.journal_apply effect
  | starts | stops | performs => simp [after, Event.effect?, removeScene]

theorem Stage.journal_foldl_after (stage : Stage) (es : List Event) :
    (es.foldl after stage).journal.toList =
      stage.journal.toList ++ es.filterMap Event.effect? := by
  induction es generalizing stage with
  | nil => simp
  | cons e es ih =>
    rw [List.foldl_cons, ih, journal_after, List.append_assoc]
    cases h : e.effect? <;> simp [h]

namespace Show

variable {hosted : Prop} {s t : Show} {e : Event} {es : List Event}

theorem Happens.stage_eq (h : Happens hosted s e t) : t.stage = s.stage.after e := by
  cases h with
  | starts hc => exact (Rebuilt.rebuild hc).stage
  | stops hi hc ht => exact stage_stopScene hi hc ht
  | performs | sends => rfl

theorem Course.stage_eq (h : Course hosted s es t) : t.stage = es.foldl Stage.after s.stage := by
  induction h with
  | refl => rfl
  | still hs _ ih => rw [ih, hs.stage]
  | step he _ ih => rw [ih, he.stage_eq, List.foldl_cons]

theorem commandEvents_create {s : Show} (hb : s.registry = .builtin)
    (hq : s.qualifyTag topLevel "title" = "title") (hi : s.stage.hasImage "title" = false) :
    s.commandEvents "create text title from hello" topLevel =
      [.sends topLevel (.createText "title" "hello")] := by
  have hw : Text.words "create text title from hello" =
      ["create", "text", "title", "from", "hello"] := by decide +kernel
  obtain ⟨c, found, hf, hh, hm, ht, hc, hg⟩ := exists_find?
    ["create", "text", "title", "from", "hello"]
    (fun handler found => handler = .create ∧ found.mismatches = [] ∧
      found.text? "item_name" = some "title" ∧ found.text? "content" = some "hello" ∧
      found.hasHeadWord "group" = false) (by decide +kernel)
  have hreq : Invocation.required ⟨topLevel, found⟩ "item_name" "a name" = .ok "title" := by
    simp [Invocation.required, Invocation.text?, ht]
  have hrun : ((Command.create ⟨topLevel, found⟩).run.run s).2 =
      s.send (.createText "title" "hello") := by
    unfold Command.create
    rw [hreq, run_bind_ok (run_lift _ s), run_bind_ok (m := get) (a := s) (t := s) rfl]
    simp only [hq, hi, Invocation.hasHeadWord, hg, Invocation.text?, hc]
    rfl
  have hr : s.reportAll [] = s := by simp [reportAll]
  have hs : sentSince s (s.send (.createText "title" "hello")) = [.createText "title" "hello"] :=
    sentSince_eq (s.stage.journal_apply _)
  simp only [commandEvents, lineEvents, hw, hb, hf, hh, handlerEvents, hm, List.map_nil, hr,
    Handler.run, hrun, hs, List.map_cons]
  rfl

/-- Each effect that is sent in the course of some calls fits the stage as the events before it
left it: what it refers to is there, and what it makes is not there yet. -/
theorem effects_fit (hb : s.registry = .builtin) {calls : List Call}
    (hc : ∀ c ∈ calls, c.Drives True) :
    (calls.foldl Call.run s).stage = (s.course calls).foldl Stage.after s.stage ∧
    (calls.foldl Call.run s).stage.journal.toList =
      s.stage.journal.toList ++ (s.course calls).filterMap Event.effect? ∧
    ∀ before scene effect later, s.course calls = before ++ .sends scene effect :: later →
      effect.Fits (before.foldl Stage.after s.stage) scene := by
  have h := course_calls hc hb
  refine ⟨h.stage_eq, ?_, fun before scene effect later hs => ?_⟩
  · rw [h.stage_eq, Stage.journal_foldl_after]
  · rw [hs] at h
    obtain ⟨t, _, hbefore, hsends, _⟩ := h.happens
    rw [← hbefore.stage_eq]
    cases hsends with
    | sends he _ => exact he

theorem effects_fit_clickShow :
    clickShow.course [.command "create text title from hello" topLevel] =
      [.sends topLevel (.createText "title" "hello")] ∧
    (Effect.createText "title" "hello").Fits clickShow.stage topLevel := by
  have hb : clickShow.registry = .builtin := reachable_clickShow.coherent.registry
  obtain ⟨hq, hi⟩ : clickShow.qualifyTag topLevel "title" = "title" ∧
      clickShow.stage.hasImage "title" = false := by decide +kernel
  have hs : clickShow.course [.command "create text title from hello" topLevel] =
      [.sends topLevel (.createText "title" "hello")] :=
    (List.append_nil _).trans (commandEvents_create hb hq hi)
  have hf := (effects_fit hb (by simp [Call.Drives])).2.2 [] topLevel _ [] hs
  rw [List.foldl_nil] at hf
  exact ⟨hs, hf⟩

end Show
end Showrunner
