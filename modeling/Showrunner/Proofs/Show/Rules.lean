import Showrunner.Proofs.Show.Events
import Showrunner.Proofs.Show.Performance

/-!
How a show runs, by rules. Nothing in the rules tells that a start of scenes within starts comes to
an end: a start is refused by the depth that the show itself counts, and the scenes to start are
told by the lines. Main statements: the rules lead from a show and a task to one end
(`Executes.unique`), and they lead to what the show does (`executes_start`).
-/

namespace Showrunner

theorem Handler.run_of_ne_start {handler : Handler} (h : handler ≠ .start)
    (start start' : Show → String → Show) (inv : Invocation) :
    handler.run start inv = handler.run start' inv := by
  cases handler with
  | start => exact absurd rfl h
  | _ => rfl

namespace Show

open Relation

/-- What there is to do: to start a scene, or scenes one after the other, to run a line for a scene,
to perform the text of an action, or to perform the begin actions of a scene at a position. -/
inductive Task where
  | start (name : String)
  | starts (names : List String)
  | line (line scene : String)
  | act (text scene : String)
  | begins (index : Nat) (scene : String) (generation : Option Nat) (lines : List String)

def called (s : Show) (scene : String) (found : Pattern.Match) : Show :=
  let s := s.received scene found
  if (found.list "list").isEmpty then s.report (Problem.startedNothing.within scene) else s

/-- The line is found to be a command that starts scenes. -/
def StartsBy (s : Show) (line : String) (found : Pattern.Match) : Prop :=
  ∃ c : Command, s.registry.find? (Text.words line) = some (c, found) ∧ c.handler = .start

/-- Starts no scene. A line that is no command to start scenes does not notice. -/
def startNone (s : Show) (_ : String) : Show := s

def noEvents (_ : Show) (_ : String) : List Event := []

/-- A task leads from a show to another with some events. The number counts the starts that were
accepted and are under way at once, where they are most. -/
inductive Executes : Nat → Show → Task → List Event → Show → Prop
  | unknown {s : Show} {name : String} (hc : s.scene? name = none) :
    Executes 0 s (.start name) [] (s.report (Problem.noScene name).anywhere)
  | refused {s : Show} {name : String} {c : Scene} (hc : s.scene? name = some c)
    (hd : maxStartDepth ≤ s.startDepth) :
    Executes 0 s (.start name) [] (s.report (Problem.startedTooDeeply name).anywhere)
  | accepted {n : Nat} {s t : Show} {name : String} {index : Nat} {c : Scene} {es : List Event}
    (hi : s.sceneIndex? name = some index) (hc : s.scene? name = some c)
    (hd : s.startDepth < maxStartDepth)
    (h : Executes n { s.rebuild index c with startDepth := (s.rebuild index c).startDepth + 1 }
      (.begins index c.name ((s.rebuild index c).generation? index)
        (beginLines (Scene.groups c.content))) es t) :
    Executes (n + 1) s (.start name) (.starts c.name :: es)
      { t with startDepth := t.startDepth - 1 }
  | startsNone {s : Show} : Executes 0 s (.starts []) [] s
  | startsNext {m n : Nat} {s t u : Show} {name : String} {names : List String}
    {es fs : List Event} (h : Executes m s (.start name) es t)
    (k : Executes n t (.starts names) fs u) :
    Executes (max m n) s (.starts (name :: names)) (es ++ fs) u
  | lineStarts {n : Nat} {s t : Show} {line scene : String} {found : Pattern.Match}
    {es : List Event} (hf : s.StartsBy line found)
    (h : Executes n (s.called scene found) (.starts (found.list "list")) es t) :
    Executes n s (.line line scene) es t
  | lineOther {s : Show} {line scene : String} (hf : ∀ found, ¬ s.StartsBy line found) :
    Executes 0 s (.line line scene) (lineEvents startNone noEvents s line scene)
      (dispatch startNone s line scene).2
  | actNone {s : Show} {text scene : String} (hl : s.lineOf? text scene = none) :
    Executes 0 s (.act text scene) [.performs s text scene] (perform startNone s text scene).2
  | actLine {n : Nat} {s t : Show} {text scene line : String} {es : List Event}
    (hl : s.lineOf? text scene = some line)
    (h : Executes n (s.expand text scene).2 (.line line scene) es t) :
    Executes n s (.act text scene) (.performs s text scene :: es) t
  | beginsDone {s : Show} {index : Nat} {scene : String} {generation : Option Nat} :
    Executes 0 s (.begins index scene generation []) [] s
  | beginsCut {s : Show} {index : Nat} {text scene : String} {generation : Option Nat}
    {rest : List String} (hg : s.generation? index ≠ generation) :
    Executes 0 s (.begins index scene generation (text :: rest)) [] s
  | beginsNext {m n : Nat} {s t u : Show} {index : Nat} {text scene : String}
    {generation : Option Nat} {rest : List String} {es fs : List Event}
    (hg : s.generation? index = generation)
    (h : Executes m (s.announce .start) (.act text scene) es t)
    (k : Executes n t (.begins index scene generation rest) fs u) :
    Executes (max m n) s (.begins index scene generation (text :: rest)) (es ++ fs) u

variable {m n : Nat} {s t u : Show} {task : Task} {es fs : List Event}

theorem StartsBy.unique {line : String} {found found' : Pattern.Match}
    (h : s.StartsBy line found) (h' : s.StartsBy line found') : found = found' := by
  obtain ⟨c, hf, -⟩ := h
  obtain ⟨c', hf', -⟩ := h'
  rw [hf] at hf'
  cases hf'
  rfl

theorem Executes.unique (h : Executes m s task es t) (h' : Executes n s task fs u) :
    m = n ∧ es = fs ∧ t = u := by
  induction h generalizing n fs u with
  | unknown hc =>
    cases h' with
    | unknown => exact ⟨rfl, rfl, rfl⟩
    | refused hc' | accepted _ hc' =>
      rw [hc] at hc'
      cases hc'
  | refused hc hd =>
    cases h' with
    | unknown hc' =>
      rw [hc] at hc'
      cases hc'
    | refused => exact ⟨rfl, rfl, rfl⟩
    | accepted _ _ hd' => exact absurd hd (Nat.not_le.mpr hd')
  | accepted hi hc hd _ ih =>
    cases h' with
    | unknown hc' =>
      rw [hc] at hc'
      cases hc'
    | refused _ hd' => exact absurd hd' (Nat.not_le.mpr hd)
    | accepted hi' hc' _ h' =>
      rw [hi] at hi'
      rw [hc] at hc'
      cases hi'
      cases hc'
      obtain ⟨rfl, rfl, rfl⟩ := ih h'
      exact ⟨rfl, rfl, rfl⟩
  | startsNone =>
    cases h'
    exact ⟨rfl, rfl, rfl⟩
  | startsNext _ _ ih ihrest =>
    cases h' with
    | startsNext h' k' =>
      obtain ⟨rfl, rfl, rfl⟩ := ih h'
      obtain ⟨rfl, rfl, rfl⟩ := ihrest k'
      exact ⟨rfl, rfl, rfl⟩
  | lineStarts hf _ ih =>
    cases h' with
    | lineStarts hf' h' =>
      cases hf.unique hf'
      exact ih h'
    | lineOther hf' => exact absurd hf (hf' _)
  | lineOther hf =>
    cases h' with
    | lineStarts hf' => exact absurd hf' (hf _)
    | lineOther => exact ⟨rfl, rfl, rfl⟩
  | actNone hl =>
    cases h' with
    | actNone => exact ⟨rfl, rfl, rfl⟩
    | actLine hl' =>
      rw [hl] at hl'
      cases hl'
  | actLine hl _ ih =>
    cases h' with
    | actNone hl' =>
      rw [hl] at hl'
      cases hl'
    | actLine hl' h' =>
      rw [hl] at hl'
      cases hl'
      obtain ⟨rfl, rfl, rfl⟩ := ih h'
      exact ⟨rfl, rfl, rfl⟩
  | beginsDone =>
    cases h'
    exact ⟨rfl, rfl, rfl⟩
  | beginsCut hg =>
    cases h' with
    | beginsCut => exact ⟨rfl, rfl, rfl⟩
    | beginsNext hg' => exact absurd hg' hg
  | beginsNext hg _ _ ih ihrest =>
    cases h' with
    | beginsCut hg' => exact absurd hg hg'
    | beginsNext _ h' k' =>
      obtain ⟨rfl, rfl, rfl⟩ := ih h'
      obtain ⟨rfl, rfl, rfl⟩ := ihrest k'
      exact ⟨rfl, rfl, rfl⟩

theorem AfterReading.called (s : Show) (scene : String) (found : Pattern.Match) :
    AfterReading s (s.called scene found) := by
  have hr : AfterReading s (s.received scene found) := .received s scene found
  unfold Show.called
  dsimp only
  split
  · exact hr.trans (.report _ _)
  · exact hr

section

variable {R : Show → Show → Prop} (hR : Upheld R)
include hR

theorem Upheld.changes {scene : String} (h : ReflTransGen (Change scene) s t) : R s t := by
  induction h with
  | refl => exact hR.refl s
  | tail _ hm ih => exact hR.trans ih (hR.change hm)

theorem Upheld.handler {handler : Handler} (hstart : handler ≠ .start)
    (start : Show → String → Show) (inv : Invocation) :
    R s ((handler.run start inv).run.run s).2 := by
  by_cases hstop : handler = .stop
  · subst hstop
    rw [Handler.run, Command.run_stopScenes]
    generalize (if (inv.list "list").isEmpty then [inv.scene] else inv.list "list") = names
    induction names generalizing s with
    | nil => exact hR.refl s
    | cons name names ih => exact hR.trans (hR.stop s name) ih
  · by_cases hassign : handler = .assign
    · subst hassign
      exact hR.changes Command.sound_assign.moves
    · refine hR.changes (ReflTransGen.mono (fun _ _ h => h.1) _ _
        (handler.leads_touches start hstart hstop hassign))

theorem Upheld.line {line scene : String} (hf : ∀ found, ¬ s.StartsBy line found) :
    R s (Show.dispatch startNone s line scene).2 := by
  rcases dispatch_cases startNone s line scene with h | ⟨c, found, hc, h⟩
  · exact hR.read h
  · have hstart : c.handler ≠ .start := fun h => hf found ⟨c, hc, h⟩
    have hm := hR.handler (s := s.received scene found) hstart startNone ⟨scene, found⟩
    exact hR.trans (hR.read (.received s scene found)) (hR.trans hm (hR.read h))

/-- What each change keeps to, each task keeps to, whatever commands the show has. -/
theorem Executes.upheld (h : Executes n s task es t) : R s t := by
  induction h with
  | unknown | refused => exact hR.read (.report _ _)
  | accepted hi hc _ _ ih =>
    exact hR.trans (hR.rebuild (getElem?_of_sceneIndex? hi hc)) (hR.nest ih)
  | startsNone | beginsDone | beginsCut => exact hR.refl _
  | startsNext _ _ ih ihrest => exact hR.trans ih ihrest
  | lineStarts _ _ ih => exact hR.trans (hR.read (.called _ _ _)) ih
  | lineOther hf => exact hR.line hf
  | actNone hl =>
    obtain ⟨p, -, hp | ⟨err, hp⟩⟩ := perform_of_lineOf?_eq_none startNone hl
    · rw [hp]
      exact hR.read (.expand _ _ _)
    · rw [hp]
      exact hR.read ((AfterReading.expand _ _ _).trans (.report _ _))
  | actLine _ _ ih => exact hR.trans (hR.read (.expand _ _ _)) ih
  | beginsNext _ _ _ ih ihrest => exact hR.trans (hR.trans (hR.assign _ _ _ _) ih) ihrest

end

theorem Executes.evolves (h : Executes n s task es t) : s.Evolves t := h.upheld upheld_evolves

/-- At a depth, scenes are started by the rules, with at most so many starts under way at once. -/
def Obeys (depth room : Nat) (start : Show → String → Show)
    (events : Show → String → List Event) : Prop :=
  ∀ s name, s.startDepth = depth →
    ∃ n ≤ room, Executes n s (.start name) (events s name) (start s name)

section

variable {depth room : Nat} {start : Show → String → Show}
  {events : Show → String → List Event} {line text scene : String} {found : Pattern.Match}

theorem dispatch_of_startsBy (hf : s.StartsBy line found) :
    (dispatch start s line scene).2 = (found.list "list").foldl start (s.called scene found) := by
  obtain ⟨c, hc, hstart⟩ := hf
  have hrun := Command.run_startScenes start ⟨scene, found⟩
  unfold dispatch
  simp only [Registry.isEmpty_of_find? hc, hc, hstart, Handler.run, hrun]
  rfl

theorem lineEvents_of_startsBy (hf : s.StartsBy line found) :
    lineEvents start events s line scene =
      along start events (s.called scene found) (found.list "list") := by
  obtain ⟨c, hc, hstart⟩ := hf
  simp only [lineEvents, hc, hstart, handlerEvents, if_pos, called]
  cases hn : found.list "list" with
  | nil => simp [Invocation.list, hn, along]
  | cons name names => simp [Invocation.list, hn, received]

theorem dispatch_of_not_startsBy (hf : ∀ found, ¬ s.StartsBy line found) :
    dispatch start s line scene = dispatch startNone s line scene := by
  unfold dispatch
  dsimp only
  split
  · rfl
  · split
    · rfl
    · next c found hc =>
      rw [c.handler.run_of_ne_start (fun h => hf found ⟨c, hc, h⟩) start startNone]

theorem fst_dispatch :
    (dispatch start s line scene).1 = (dispatch startNone s line scene).1 := by
  by_cases hf : ∃ found, s.StartsBy line found
  · obtain ⟨found, c, hc, hstart⟩ := hf
    have hrun (start : Show → String → Show) := Command.run_startScenes start ⟨scene, found⟩
    unfold dispatch
    simp only [Registry.isEmpty_of_find? hc, hc, hstart, Handler.run, hrun]
    rfl
  · rw [dispatch_of_not_startsBy (not_exists.mp hf)]

theorem fst_runGuarded :
    (runGuarded start s text scene).1 = (runGuarded startNone s text scene).1 := by
  unfold runGuarded
  split
  · rfl
  · dsimp only
    rw [fst_dispatch]

theorem fst_perform :
    (perform start s text scene).1 = (perform startNone s text scene).1 := by
  unfold perform
  dsimp only
  split
  · split
    · exact fst_runGuarded
    · rfl
  · exact fst_runGuarded

theorem perform_of_lineOf?_none (hl : s.lineOf? text scene = none) :
    perform start s text scene = perform startNone s text scene := by
  have hg := Option.map_eq_none_iff.mp hl
  unfold perform runGuarded
  dsimp only
  split at hg
  · next hsafe =>
    rw [if_pos hsafe, if_pos hsafe, show (s.expand text scene).2.evaluator = s.evaluator from rfl]
    cases hr : Span.evaluate s.evaluator (s.expand text scene).1.text with
    | error err => rfl
    | ok value =>
      have hn : Guard.body? value = none := by simpa [hr, Except.toOption] using hg
      simp only [hn]
  · next hsafe =>
    have hn : Guard.body? (s.expand text scene).1.text = none := by simpa using hg
    rw [if_neg hsafe, if_neg hsafe, hn]

theorem lineEvents_of_not_startsBy (hf : ∀ found, ¬ s.StartsBy line found) :
    lineEvents start events s line scene = lineEvents startNone noEvents s line scene := by
  unfold lineEvents
  split
  · rfl
  · next c found hc =>
    have hstart : c.handler ≠ .start := fun h => hf found ⟨c, hc, h⟩
    unfold handlerEvents
    rw [if_neg hstart, if_neg hstart, c.handler.run_of_ne_start hstart start startNone]

variable (hst : Obeys depth room start events) (hs : s.startDepth = depth)
include hst hs

theorem executes_starts (names : List String) :
    ∃ n ≤ room,
      Executes n s (.starts names) (along start events s names) (names.foldl start s) := by
  induction names generalizing s with
  | nil => exact ⟨0, Nat.zero_le _, .startsNone⟩
  | cons name names ih =>
    obtain ⟨m, hm, h⟩ := hst s name hs
    obtain ⟨n, hn, k⟩ := ih (h.evolves.startDepth.trans hs)
    exact ⟨max m n, Nat.max_le.mpr ⟨hm, hn⟩, .startsNext h k⟩

theorem executes_line (line scene : String) :
    ∃ n ≤ room, Executes n s (.line line scene) (lineEvents start events s line scene)
      (dispatch start s line scene).2 := by
  by_cases hf : ∃ found, s.StartsBy line found
  · obtain ⟨found, hf⟩ := hf
    obtain ⟨n, hn, h⟩ := executes_starts (s := s.called scene found) hst
      ((AfterReading.called s scene found).startDepth.trans hs) (found.list "list")
    rw [lineEvents_of_startsBy hf, dispatch_of_startsBy hf]
    exact ⟨n, hn, .lineStarts hf h⟩
  · have hf := not_exists.mp hf
    rw [lineEvents_of_not_startsBy hf, dispatch_of_not_startsBy hf]
    exact ⟨0, Nat.zero_le _, .lineOther hf⟩

theorem executes_perform (text scene : String) :
    ∃ n ≤ room, Executes n s (.act text scene) (performEvents start events s text scene)
      (perform start s text scene).2 := by
  unfold performEvents
  cases hl : s.lineOf? text scene with
  | none =>
    rw [perform_of_lineOf?_none hl]
    exact ⟨0, Nat.zero_le _, .actNone hl⟩
  | some line =>
    have he : (s.expand text scene).2.startDepth = depth :=
      (AfterReading.expand s text scene).startDepth.trans hs
    obtain ⟨n, hn, h⟩ := executes_line hst he line scene
    rw [perform_of_lineOf?_eq_some hl]
    exact ⟨n, hn, .actLine hl h⟩

theorem executes_beginWith (index : Nat) (scene : String) (generation : Option Nat)
    (lines : List String) :
    ∃ n ≤ room, Executes n s (.begins index scene generation lines)
      (beginEvents start events index scene generation lines s)
      (beginWith start index scene generation lines s) := by
  induction lines generalizing s with
  | nil => exact ⟨0, Nat.zero_le _, .beginsDone⟩
  | cons text rest ih =>
    unfold beginEvents beginWith
    by_cases hg : s.generation? index = generation
    · obtain ⟨m, hm, h⟩ := executes_perform (s := s.announce .start) hst hs text scene
      obtain ⟨n, hn, k⟩ := ih (h.evolves.startDepth.trans hs)
      rw [if_neg (by simpa using hg), if_neg (by simpa using hg)]
      exact ⟨max m n, Nat.max_le.mpr ⟨hm, hn⟩, .beginsNext hg h k⟩
    · rw [if_pos (by simpa using hg), if_pos (by simpa using hg)]
      exact ⟨0, Nat.zero_le _, .beginsCut hg⟩

end

/-- The more starts are under way, the less room is left, and without room no start is accepted. -/
theorem obeys_startWithin (room : Nat) {depth : Nat} (hr : maxStartDepth - depth = room) :
    Obeys depth room (fun s name => (startWithin room s name).2) (startEvents room) := by
  induction room generalizing depth with
  | zero =>
    -- without room the show is as deep as it may be, and the rules refuse as well
    rintro s name rfl
    refine ⟨0, Nat.le_refl 0, ?_⟩
    dsimp only
    cases hc : s.scene? name with
    | none =>
      obtain ⟨hs, he⟩ := startWithin_of_none hc 0
      rw [hs, he]
      exact .unknown hc
    | some c =>
      obtain ⟨index, hi⟩ := exists_sceneIndex? hc
      unfold startWithin startEvents
      rw [hi, hc]
      exact .refused hc (Nat.le_of_sub_eq_zero hr)
  | succ room ih =>
    rintro s name rfl
    dsimp only
    cases hc : s.scene? name with
    | none =>
      obtain ⟨hs, he⟩ := startWithin_of_none hc (room + 1)
      rw [hs, he]
      exact ⟨0, Nat.zero_le _, .unknown hc⟩
    | some c =>
      obtain ⟨index, hi⟩ := exists_sceneIndex? hc
      have hd : (s.rebuild index c).startDepth + 1 = s.startDepth + 1 := by
        rw [(Rebuilt.rebuild (getElem?_of_sceneIndex? hi hc)).startDepth]
      -- a start within this one is one deeper and has one less room
      have hwithin : Obeys (s.startDepth + 1) room (fun s name => (startWithin room s name).2)
          (startEvents room) := ih (by omega)
      obtain ⟨n, hn, h⟩ := executes_beginWith
        (s := { s.rebuild index c with startDepth := (s.rebuild index c).startDepth + 1 })
        hwithin hd index c.name
        ((s.rebuild index c).generation? index) (beginLines (Scene.groups c.content))
      unfold startWithin startEvents
      rw [hi, hc]
      exact ⟨n + 1, Nat.succ_le_succ hn, .accepted hi hc (by omega) h⟩

/-- Scenes are started by the rules, with no more starts under way at once than there is room for
at the depth of the show. -/
theorem executes_start (s : Show) (name : String) :
    ∃ n ≤ maxStartDepth - s.startDepth,
      Executes n s (.start name) (s.startSceneEvents name) (s.startScene name).2 :=
  obeys_startWithin _ rfl s name rfl

theorem startScene_of_deep {name : String} {c : Scene} (hc : s.scene? name = some c)
    (hd : maxStartDepth ≤ s.startDepth) :
    s.startScene name = (false, s.report (Problem.startedTooDeeply name).anywhere) := by
  obtain ⟨index, hi⟩ := exists_sceneIndex? hc
  unfold startScene
  rw [Nat.sub_eq_zero_of_le hd, startWithin, hi, hc]

theorem obeys_startScene (depth : Nat) :
    Obeys depth (maxStartDepth - depth) (fun s name => (s.startScene name).2) startSceneEvents := by
  rintro s name rfl
  exact executes_start s name

theorem executes_act (s : Show) (text scene : String) :
    ∃ n ≤ maxStartDepth - s.startDepth,
      Executes n s (.act text scene) (s.actEvents text scene) (s.act text scene).2 :=
  executes_perform (obeys_startScene s.startDepth) rfl text scene

end Show
end Showrunner
