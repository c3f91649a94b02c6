import Showrunner.Proofs.Show.Coherence

namespace Showrunner.Show

/-- The diagnostics of a line that is read by a pattern: what it lacks. -/
def matchNotes (found : Pattern.Match) (scene : String) : List Diagnostic :=
  found.mismatches.map fun m => (Problem.mismatch m).within scene

variable {s : Show} {start : Show → String → Show}

theorem dispatch_of_error (hb : s.registry = .builtin) {line scene : String} {c : Command}
    {found : Pattern.Match} (hf : s.registry.find? (Text.words line) = some (c, found))
    {e : CommandError} {t : Show}
    (hr : (c.handler.run start ⟨scene, found⟩).run.run (s.reportAll (matchNotes found scene)) =
      (.error e, t)) :
    dispatch start s line scene = (false, s.reportAll
      (matchNotes found scene ++ [(Problem.commandFailed c.id e).within scene])) := by
  have hw : (Text.words line).isEmpty = false := Registry.isEmpty_of_find? hf
  have ht : t = s.reportAll (matchNotes found scene) :=
    (Handler.sound_run start c.handler (tagged_of_find? (hb ▸ hf) scene)).eq_of_error hr
  have hd : (s.diagnostics ++ matchNotes found scene).push
      ((Problem.commandFailed c.id e).within scene) = s.diagnostics ++
        (matchNotes found scene ++ [(Problem.commandFailed c.id e).within scene]) :=
    Array.toList_inj.mp (by simp)
  have hs : (s.reportAll (matchNotes found scene)).report
      ((Problem.commandFailed c.id e).within scene) = s.reportAll
        (matchNotes found scene ++ [(Problem.commandFailed c.id e).within scene]) := by
    simp only [report, reportAll, hd]
  unfold dispatch
  simp only [hw, hf]
  unfold matchNotes at hr ht
  simp only [hr, ht]
  exact congrArg (Prod.mk false) hs

theorem perform_of_error {text scene : String}
    (he : (s.vars.expand text scene s.stage s.dice).isSafe) {err : EvalError}
    (hv : Span.evaluate s.evaluator (s.vars.expand text scene s.stage s.dice).text = .error err) :
    perform start s text scene = (⟨none, false⟩,
      { s with
        dice := (s.vars.expand text scene s.stage s.dice).dice
        diagnostics := s.diagnostics.push ((Problem.evaluation err).within scene) }) := by
  have hd : (s.vars.expand text scene s.stage s.dice).diagnostics scene = [] := by
    simpa [Variables.Expansion.diagnostics, Variables.Expansion.isSafe] using he
  unfold perform expand
  simp only [he, hd, reportAll, hv, report]
  simp

theorem noteAt_nothing (s : Show) (index position : Nat) :
    s.noteAt index position ⟨none, false⟩ = s := by
  have ha : noteAction ⟨none, false⟩ = id := by
    funext a
    simp [noteAction]
  have hc : (fun c : Scene => { c with actions := c.actions.modify position id }) = id := by
    funext c
    simp
  unfold noteAt modifyScene
  rw [ha, hc, List.modify_id]

/-- A command that fails changes nothing but the diagnostics, which grow by what the line lacks and
by one problem of the script. An action with an expression that has no value is not run, and with
it only the dice, the announced trigger and the diagnostics change. All this holds in the middle
of a call, too. -/
theorem failure_only_reports (hb : s.registry = .builtin) (start : Show → String → Show)
    (scene : String) :
    (∀ (line : String) (c : Command) (found : Pattern.Match) (e : CommandError) (t : Show),
      s.registry.find? (Text.words line) = some (c, found) →
      (c.handler.run start ⟨scene, found⟩).run.run (s.reportAll (matchNotes found scene)) =
        (.error e, t) →
      dispatch start s line scene = (false, { s with
        diagnostics := s.diagnostics ++
          (matchNotes found scene ++ [(Problem.commandFailed c.id e).within scene]) }) ∧
      (Problem.commandFailed c.id e).kind = .script) ∧
    (∀ (text : String) (kind : Trigger.Kind) (err : EvalError),
      ((s.announce kind).vars.expand text scene s.stage s.dice).isSafe →
      Span.evaluate s.evaluator ((s.announce kind).vars.expand text scene s.stage s.dice).text =
        .error err →
      perform start (s.announce kind) text scene = (⟨none, false⟩, { s with
        vars := s.vars.set "TRIGGER" kind.name topLevel
        dice := ((s.announce kind).vars.expand text scene s.stage s.dice).dice
        diagnostics := s.diagnostics.push ((Problem.evaluation err).within scene) })) ∧
    ∀ (t : Show) (index position : Nat), t.noteAt index position ⟨none, false⟩ = t :=
  ⟨fun _ _ _ _ _ hf hr => ⟨dispatch_of_error hb hf hr, rfl⟩,
    fun _ _ _ he hv => perform_of_error he hv, noteAt_nothing⟩

theorem failure_only_reports_clickShow :
    (∃ c found, clickShow.registry.find? ["load"] = some (c, found) ∧
      clickShow.command "load" topLevel = (false, { clickShow with
        diagnostics := clickShow.diagnostics ++ (matchNotes found topLevel ++
          [(Problem.commandFailed c.id (.expected "a file name")).within topLevel]) })) ∧
    ((clickShow.announce .onClick).act "echo (#)" topLevel).1 = ⟨none, false⟩ := by
  have hb : clickShow.registry = .builtin := reachable_clickShow.coherent.registry
  have hspec := failure_only_reports hb (fun s name => (s.startScene name).2) topLevel
  constructor
  · have hw : Text.words "load" = ["load"] := by decide +kernel
    have hk : ((Registry.builtin.find? ["load"]).map fun r => (r.1.id, r.1.handler, r.2)).map
        (fun r => (r.2.1, r.2.2.text? "filename")) = some (.load, none) := by
      rw [builtin_find?]
      decide +kernel
    obtain ⟨⟨c, found⟩, hf, hc⟩ : ∃ r, Registry.builtin.find? ["load"] = some r ∧
        (r.1.handler, r.2.text? "filename") = (.load, none) := by
      simpa [Option.map_map] using hk
    obtain ⟨hh, hn⟩ : c.handler = .load ∧ found.text? "filename" = none := by
      simpa only [Prod.mk.injEq] using hc
    rw [← hb] at hf
    refine ⟨c, found, hf, ?_⟩
    have hr : (c.handler.run (fun s name => (s.startScene name).2) ⟨topLevel, found⟩).run.run
        (clickShow.reportAll (matchNotes found topLevel)) =
          (.error (.expected "a file name"), clickShow.reportAll (matchNotes found topLevel)) := by
      have hreq : Invocation.required ⟨topLevel, found⟩ "filename" "a file name" =
          .error (.expected "a file name") := by
        simp [Invocation.required, Invocation.text?, hn]
      rw [hh]
      unfold Handler.run Command.load
      rw [hreq]
      exact run_bind_error (run_lift _ _)
    exact (hspec.1 "load" c found _ _ (hw ▸ hf) hr).1
  · have he : ((clickShow.announce .onClick).vars.expand "echo (#)" topLevel clickShow.stage
        clickShow.dice).isSafe := by decide +kernel
    have ht : ((clickShow.announce .onClick).vars.expand "echo (#)" topLevel clickShow.stage
        clickShow.dice).text = "echo (#)" := by decide +kernel
    have hv : Span.evaluate clickShow.evaluator "echo (#)" =
        .error (.expression "(#)" (.malformed (.lexical (.unexpectedCharacter '#')))) := rfl
    rw [← ht] at hv
    exact congrArg Prod.fst (hspec.2.1 "echo (#)" .onClick _ he hv)

end Showrunner.Show
