import Showrunner.Proofs.Show.Calls
import Showrunner.Proofs.Show.Turns

namespace Showrunner

/-- Something that happens in the course of a run: a scene is started or stopped, an action is
performed for a scene, with the show as it is at that moment, or an effect is sent for a scene. -/
inductive Event where
  | starts (scene : String)
  | stops (scene : String)
  | performs (moment : Show) (text scene : String)
  | sends (scene : String) (effect : Effect)

namespace Show

def along {σ α : Type} (f : σ → α → σ) (events : σ → α → List Event) : σ → List α → List Event
  | _, [] => []
  | s, a :: as => events s a ++ along f events (f s a) as

def sentSince (s t : Show) : List Effect := t.stage.journal.toList.drop s.stage.journal.size

def lineOf? (s : Show) (text scene : String) : Option String :=
  let e := (s.expand text scene).1
  let evaluated := if e.isSafe then (Span.evaluate s.evaluator e.text).toOption else some e.text
  (evaluated.bind Guard.body?).map Text.trim

def stopEvents (s : Show) (name : String) : List Event :=
  match s.scene? name with
  | none => []
  | some scene => if scene.isTopLevel then [] else [.stops scene.name]

section

variable (start : Show → String → Show) (events : Show → String → List Event)

/-- What a command makes happen. Only those that start and stop scenes make more happen than that
effects are sent. -/
def handlerEvents (s : Show) (handler : Handler) (inv : Invocation) : List Event :=
  let names := inv.list "list"
  if handler = .start then along start events s names
  else if handler = .stop then
    along (fun s name => (s.stopScene name).2) stopEvents s
      (if names.isEmpty then [inv.scene] else names)
  else (sentSince s ((handler.run start inv).run.run s).2).map (.sends inv.scene)

def lineEvents (s : Show) (line scene : String) : List Event :=
  match s.registry.find? (Text.words line) with
  | none => []
  | some (command, found) =>
    handlerEvents start events
      (s.reportAll (found.mismatches.map fun m => (Problem.mismatch m).within scene))
      command.handler ⟨scene, found⟩

def performEvents (s : Show) (text scene : String) : List Event :=
  .performs s text scene ::
    match s.lineOf? text scene with
    | none => []
    | some line => lineEvents start events (s.expand text scene).2 line scene

def beginEvents (index : Nat) (scene : String) (generation : Option Nat) :
    List String → Show → List Event
  | [], _ => []
  | text :: rest, s =>
    if s.generation? index != generation then []
    else performEvents start events (s.announce .start) text scene ++
      beginEvents index scene generation rest (perform start (s.announce .start) text scene).2

end

/-- What a start makes happen, with room for so many more starts within it. -/
def startEvents : Nat → Show → String → List Event
  | room, s, name =>
    match s.sceneIndex? name, s.scene? name with
    | some index, some scene =>
      match room with
      | 0 => []
      | room + 1 =>
        let t := s.rebuild index scene
        .starts scene.name ::
          beginEvents (fun s name => (startWithin room s name).2) (fun s name =>
            startEvents room s name) index scene.name (t.generation? index)
            (beginLines (Scene.groups scene.content)) { t with startDepth := t.startDepth + 1 }
    | _, _ => []

def startSceneEvents (s : Show) (name : String) : List Event :=
  startEvents (maxStartDepth - s.startDepth) s name

def commandEvents (s : Show) (line scene : String) : List Event :=
  lineEvents (fun s name => (s.startScene name).2) startSceneEvents s line scene

def actEvents (s : Show) (text scene : String) : List Event :=
  performEvents (fun s name => (s.startScene name).2) startSceneEvents s text scene

def dueEvents (index : Nat) (scene : String) (generation : Option Nat) :
    List Nat → Show → List Event
  | [], _ => []
  | position :: rest, s =>
    match s.scenes[index]?.bind (dueAction? · position) with
    | none => dueEvents index scene generation rest s
    | some (kind, text) =>
      let (p, t) := (s.announce kind).act text scene
      (s.announce kind).actEvents text scene ++
        if t.generation? index != generation then []
        else dueEvents index scene generation rest (t.noteAt index position p)

def visitEvents (s : Show) (input : Input) (index : Nat) : List Event :=
  match s.scenes[index]? with
  | none => []
  | some scene =>
    if !scene.enabled then []
    else
      let (triggers, _, t) := updateTriggers scene.name scene.triggers input s
      dueEvents index scene.name (t.generation? index) (List.range scene.actions.length)
        (t.modifyScene index fun scene => { scene with triggers := triggers })

def frameEvents (s : Show) (clock : FrameClock) (input : Input) : List Event :=
  (List.range s.scenes.length).flatMap fun index =>
    (s.turn clock input index).1.visitEvents (s.turn clock input index).2 index

end Show

/-- What happens in the course of a call. Effects that the host sends itself are left out. -/
def Call.events (s : Show) : Call → List Event
  | begin clock => (s.setClock clock).startSceneEvents topLevel
  | startScene name => s.startSceneEvents name
  | stopScene name => s.stopEvents name
  | command line scene => s.commandEvents line scene
  | frame clock input => s.frameEvents clock input
  | _ => []

namespace Show

def course (s : Show) (calls : List Call) : List Event := along Call.run Call.events s calls

theorem along_append {σ α : Type} (f : σ → α → σ) (events : σ → α → List Event) (s : σ)
    (as bs : List α) : along f events s (as ++ bs) =
      along f events s as ++ along f events (as.foldl f s) bs := by
  induction as generalizing s with
  | nil => rfl
  | cons a as ih => simp [along, ih]

variable {s : Show} {start : Show → String → Show} {text scene : String}

theorem perform_of_lineOf?_eq_some {line : String} (h : s.lineOf? text scene = some line) :
    perform start s text scene =
      (⟨some line, (dispatch start (s.expand text scene).2 line scene).1⟩,
        (dispatch start (s.expand text scene).2 line scene).2) := by
  obtain ⟨body, hbody, rfl⟩ := Option.map_eq_some_iff.mp h
  obtain ⟨evaluated, he, hg⟩ := Option.bind_eq_some_iff.mp hbody
  unfold perform
  dsimp only
  split at he
  · next hsafe =>
    have hv : Span.evaluate s.evaluator (s.expand text scene).1.text = .ok evaluated := by
      cases hr : Span.evaluate s.evaluator (s.expand text scene).1.text with
      | error err => rw [hr] at he; cases he
      | ok value => rw [hr] at he; cases he; rfl
    rw [if_pos hsafe, show (s.expand text scene).2.evaluator = s.evaluator from rfl, hv]
    simp [runGuarded, hg]
  · next hsafe =>
    cases he
    rw [if_neg hsafe]
    simp [runGuarded, hg]

theorem perform_of_lineOf?_eq_none (start : Show → String → Show)
    (h : s.lineOf? text scene = none) :
    ∃ p, p.complete = false ∧ (perform start s text scene = (p, (s.expand text scene).2) ∨
      ∃ err, perform start s text scene =
        (p, (s.expand text scene).2.report ((Problem.evaluation err).within scene))) := by
  have hg := Option.map_eq_none_iff.mp h
  unfold perform
  dsimp only
  split at hg
  · next hsafe =>
    rw [if_pos hsafe, show (s.expand text scene).2.evaluator = s.evaluator from rfl]
    cases hr : Span.evaluate s.evaluator (s.expand text scene).1.text with
    | error err => exact ⟨_, rfl, .inr ⟨err, rfl⟩⟩
    | ok value =>
      have hn : Guard.body? value = none := by simpa [hr, Except.toOption] using hg
      exact ⟨⟨some value, false⟩, rfl, .inl (by simp [runGuarded, hn])⟩
  · next hsafe =>
    have hn : Guard.body? (s.expand text scene).1.text = none := by simpa using hg
    rw [if_neg hsafe]
    exact ⟨⟨some (s.expand text scene).1.text, false⟩, rfl, .inl (by simp [runGuarded, hn])⟩

theorem startWithin_of_none {name : String} (hc : s.scene? name = none) (room : Nat) :
    startWithin room s name = (false, s.report (Problem.noScene name).anywhere) ∧
      startEvents room s name = [] := by
  unfold startWithin startEvents
  rw [hc]
  cases s.sceneIndex? name <;> exact ⟨rfl, rfl⟩

end Show
end Showrunner
