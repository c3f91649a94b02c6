import Showrunner.Proofs.Show.Rules

/-!
Starts and frames come to an end, with a bounded number of starts under way at once, whatever the
scenes do. Main statement: `start_and_frame_end`.
-/

namespace Showrunner.Show

/-- Performing the due actions at some positions of a scene leads from a show to another. Other than
in begin actions, what became of an action is noted. -/
inductive ExecutesDue (index : Nat) (scene : String) (generation : Option Nat) :
    Nat → Show → List Nat → List Event → Show → Prop
  | done {s : Show} : ExecutesDue index scene generation 0 s [] [] s
  | passed {n : Nat} {s t : Show} {position : Nat} {rest : List Nat} {es : List Event}
    (hd : s.scenes[index]?.bind (dueAction? · position) = none)
    (h : ExecutesDue index scene generation n s rest es t) :
    ExecutesDue index scene generation n s (position :: rest) es t
  | cut {n : Nat} {s t : Show} {position : Nat} {rest : List Nat} {kind : Trigger.Kind}
    {text : String} {es : List Event}
    (hd : s.scenes[index]?.bind (dueAction? · position) = some (kind, text))
    (h : Executes n (s.announce kind) (.act text scene) es t)
    (hg : t.generation? index ≠ generation) :
    ExecutesDue index scene generation n s (position :: rest) es t
  | next {m n : Nat} {s t u : Show} {position : Nat} {rest : List Nat} {kind : Trigger.Kind}
    {text : String} {es fs : List Event}
    (hd : s.scenes[index]?.bind (dueAction? · position) = some (kind, text))
    (h : Executes m (s.announce kind) (.act text scene) es t)
    (hg : t.generation? index = generation)
    (k : ExecutesDue index scene generation n
      (t.noteAt index position (perform startNone (s.announce kind) text scene).1) rest fs u) :
    ExecutesDue index scene generation (max m n) s (position :: rest) (es ++ fs) u

/-- The first so many turns of a frame lead to a show and an input. -/
inductive ExecutesTurns (s : Show) (clock : FrameClock) (input : Input) :
    Nat → Nat → List Event → Show × Input → Prop
  | opened : ExecutesTurns s clock input 0 0 [] (s.opened clock input)
  | passed {n index : Nat} {es : List Event} {r : Show × Input}
    (h : ExecutesTurns s clock input n index es r)
    (he : ∀ c, r.1.scenes[index]? = some c → c.enabled = false) :
    ExecutesTurns s clock input n (index + 1) es r
  | served {m n index : Nat} {es fs : List Event} {r : Show × Input} {c : Scene}
    {updated : List Trigger} {rest : Input} {t u : Show}
    (h : ExecutesTurns s clock input m index es r) (hc : r.1.scenes[index]? = some c)
    (he : c.enabled) (hu : updateTriggers c.name c.triggers r.2 r.1 = (updated, rest, t))
    (k : ExecutesDue index c.name (t.generation? index) n
      (t.modifyScene index fun c => { c with triggers := updated })
      (List.range c.actions.length) fs u) :
    ExecutesTurns s clock input (max m n) (index + 1) (es ++ fs)
      (u.modifyScene index Scene.clearFired, rest)

def ExecutesFrame (n : Nat) (s : Show) (clock : FrameClock) (input : Input) (es : List Event)
    (after : Show × Input) : Prop :=
  ExecutesTurns s clock input n s.scenes.length es after

variable {m n index : Nat} {scene : String} {generation : Option Nat} {s t u : Show}
  {positions : List Nat} {es fs : List Event} {clock : FrameClock} {input : Input}
  {r q : Show × Input}

theorem ExecutesDue.unique (h : ExecutesDue index scene generation m s positions es t)
    (h' : ExecutesDue index scene generation n s positions fs u) : m = n ∧ es = fs ∧ t = u := by
  induction h generalizing n fs u with
  | done =>
    cases h'
    exact ⟨rfl, rfl, rfl⟩
  | passed hd _ ih =>
    cases h' with
    | passed _ h' => exact ih h'
    | cut hd' | next hd' =>
      rw [hd] at hd'
      cases hd'
  | cut hd h hg =>
    cases h' with
    | passed hd' =>
      rw [hd] at hd'
      cases hd'
    | cut hd' h' =>
      rw [hd] at hd'
      cases hd'
      exact h.unique h'
    | next hd' h' hg' =>
      rw [hd] at hd'
      cases hd'
      obtain ⟨rfl, rfl, rfl⟩ := h.unique h'
      exact absurd hg' hg
  | next hd h hg _ ih =>
    cases h' with
    | passed hd' =>
      rw [hd] at hd'
      cases hd'
    | cut hd' h' hg' =>
      rw [hd] at hd'
      cases hd'
      obtain ⟨rfl, rfl, rfl⟩ := h.unique h'
      exact absurd hg hg'
    | next hd' h' _ k' =>
      rw [hd] at hd'
      cases hd'
      obtain ⟨rfl, rfl, rfl⟩ := h.unique h'
      obtain ⟨rfl, rfl, rfl⟩ := ih k'
      exact ⟨rfl, rfl, rfl⟩

theorem ExecutesTurns.unique (h : ExecutesTurns s clock input m index es r)
    (h' : ExecutesTurns s clock input n index fs q) : m = n ∧ es = fs ∧ r = q := by
  induction h generalizing n fs q with
  | opened =>
    cases h'
    exact ⟨rfl, rfl, rfl⟩
  | passed _ he ih =>
    cases h' with
    | passed h' => exact ih h'
    | served h' hc he' =>
      obtain ⟨-, -, rfl⟩ := ih h'
      rw [he _ hc] at he'
      cases he'
  | served _ hc he hu k ih =>
    cases h' with
    | passed h' he' =>
      obtain ⟨-, -, rfl⟩ := ih h'
      rw [he' _ hc] at he
      cases he
    | served h' hc' _ hu' k' =>
      obtain ⟨rfl, rfl, rfl⟩ := ih h'
      rw [hc] at hc'
      cases hc'
      rw [hu] at hu'
      cases hu'
      obtain ⟨rfl, rfl, rfl⟩ := k.unique k'
      exact ⟨rfl, rfl, rfl⟩

theorem ExecutesDue.startDepth (h : ExecutesDue index scene generation n s positions es t) :
    t.startDepth = s.startDepth := by
  induction h with
  | done => rfl
  | passed _ _ ih => exact ih
  | cut _ h => exact h.evolves.startDepth
  | next _ h _ _ ih => exact ih.trans h.evolves.startDepth

theorem ExecutesTurns.startDepth (h : ExecutesTurns s clock input n index es r) :
    r.1.startDepth = s.startDepth := by
  induction h with
  | opened =>
    obtain ⟨vars, hv⟩ := opened_eq s clock input
    rw [hv]
  | passed _ _ ih => exact ih
  | @served _ _ _ _ _ r c _ _ _ _ _ _ _ hu k ih =>
    have ht := (AfterReading.updateTriggers c.name c.triggers r.2 r.1).startDepth
    rw [hu] at ht
    exact (k.startDepth.trans ht).trans ih

theorem executesDue_performDue (index : Nat) (scene : String) (generation : Option Nat)
    (positions : List Nat) (s : Show) :
    ∃ n ≤ maxStartDepth - s.startDepth, ExecutesDue index scene generation n s positions
      (dueEvents index scene generation positions s)
      (performDue index scene generation positions s) := by
  induction positions generalizing s with
  | nil => exact ⟨0, Nat.zero_le _, .done⟩
  | cons position rest ih =>
    unfold dueEvents performDue
    cases hd : s.scenes[index]?.bind (dueAction? · position) with
    | none =>
      obtain ⟨n, hn, h⟩ := ih s
      exact ⟨n, hn, .passed hd h⟩
    | some due =>
      obtain ⟨kind, text⟩ := due
      obtain ⟨m, hm, h⟩ := executes_act (s.announce kind) text scene
      -- the rules tell what became of the action without the scenes that it starts
      have hp : ((s.announce kind).act text scene).1 =
          (perform startNone (s.announce kind) text scene).1 := fst_perform
      dsimp only
      by_cases hg : ((s.announce kind).act text scene).2.generation? index = generation
      · obtain ⟨n, hn, k⟩ := ih (((s.announce kind).act text scene).2.noteAt index position
          ((s.announce kind).act text scene).1)
        have hs : (((s.announce kind).act text scene).2.noteAt index position
            ((s.announce kind).act text scene).1).startDepth = s.startDepth :=
          h.evolves.startDepth
        rw [if_neg (by simpa using hg), if_neg (by simpa using hg)]
        refine ⟨max m n, Nat.max_le.mpr ⟨hm, hs ▸ hn⟩, .next hd h hg ?_⟩
        rw [← hp]
        exact k
      · rw [if_pos (by simpa using hg), if_pos (by simpa using hg), List.append_nil]
        exact ⟨m, hm, .cut hd h hg⟩

theorem ExecutesTurns.visit (h : ExecutesTurns s clock input m index es r)
    (hm : m ≤ maxStartDepth - s.startDepth) :
    ∃ n ≤ maxStartDepth - s.startDepth, ExecutesTurns s clock input n (index + 1)
      (es ++ r.1.visitEvents r.2 index) (r.1.visit r.2 index) := by
  unfold visitEvents
  cases hc : r.1.scenes[index]? with
  | none =>
    rw [Show.visit, hc, List.append_nil]
    exact ⟨m, hm, h.passed (by simp [hc])⟩
  | some c =>
    cases he : c.enabled with
    | false =>
      rw [visit_of_not_enabled hc he]
      exact ⟨m, hm, by simpa [he] using h.passed (by simp [hc, he])⟩
    | true =>
      rcases hu : updateTriggers c.name c.triggers r.2 r.1 with ⟨updated, rest, t⟩
      obtain ⟨n, hn, k⟩ := executesDue_performDue index c.name (t.generation? index)
        (List.range c.actions.length)
        (t.modifyScene index fun c => { c with triggers := updated })
      have ht := (AfterReading.updateTriggers c.name c.triggers r.2 r.1).startDepth
      rw [hu] at ht
      rw [show (t.modifyScene index fun c => { c with triggers := updated }).startDepth =
        s.startDepth from ht.trans h.startDepth] at hn
      rw [visit_of_enabled hc he hu]
      exact ⟨max m n, Nat.max_le.mpr ⟨hm, hn⟩, by simpa [he, hu] using h.served hc he hu k⟩

theorem executesTurns_turn (s : Show) (clock : FrameClock) (input : Input) (index : Nat) :
    ∃ n ≤ maxStartDepth - s.startDepth, ExecutesTurns s clock input n index
      ((List.range index).flatMap fun index =>
        (s.turn clock input index).1.visitEvents (s.turn clock input index).2 index)
      (s.turn clock input index) := by
  induction index with
  | zero => exact ⟨0, Nat.zero_le _, .opened⟩
  | succ index ih =>
    obtain ⟨m, hm, h⟩ := ih
    rw [List.range_succ, List.flatMap_append, List.flatMap_singleton]
    exact h.visit hm

/-- Starts and frames come to an end, whatever the scenes do: by rules that know no bound but the
depth that the show counts, they lead to what they lead to and to nothing else. No more starts are
accepted and under way at once than the depth leaves room for. A start that is refused for its depth
is reported, and that is all. The depth is in the end what it was. -/
theorem start_and_frame_end (s : Show) :
    (∀ name, ∃ n ≤ maxStartDepth - s.startDepth,
      Executes n s (.start name) (s.startSceneEvents name) (s.startScene name).2 ∧
      (∀ m es t, Executes m s (.start name) es t →
        m = n ∧ es = s.startSceneEvents name ∧ t = (s.startScene name).2) ∧
      (s.startScene name).2.startDepth = s.startDepth) ∧
    (∀ clock input, ∃ n ≤ maxStartDepth - s.startDepth,
      ExecutesFrame n s clock input (s.frameEvents clock input) (s.frame clock input) ∧
      (∀ m es r, ExecutesFrame m s clock input es r →
        m = n ∧ es = s.frameEvents clock input ∧ r = s.frame clock input) ∧
      (s.frame clock input).1.startDepth = s.startDepth) ∧
    ∀ name c, s.scene? name = some c → maxStartDepth ≤ s.startDepth →
      s.startScene name = (false, s.report (Problem.startedTooDeeply name).anywhere) := by
  refine ⟨fun name => ?_, fun clock input => ?_, fun name c hc hd => startScene_of_deep hc hd⟩
  · obtain ⟨n, hn, h⟩ := executes_start s name
    exact ⟨n, hn, h, fun m es t h' => h'.unique h, h.evolves.startDepth⟩
  · obtain ⟨n, hn, h⟩ := executesTurns_turn s clock input s.scenes.length
    rw [← frame_eq_turn] at h
    exact ⟨n, hn, h, fun m es r h' => h'.unique h, h.startDepth⟩

def deepShow : Show := { clickShow with startDepth := maxStartDepth }

/-- No scene is started one more time. -/
theorem start_and_frame_end_deepShow : ∃ c, deepShow.scene? topLevel = some c ∧
    maxStartDepth ≤ deepShow.startDepth ∧ deepShow.startScene topLevel =
      (false, deepShow.report (Problem.startedTooDeeply topLevel).anywhere) := by
  have hd : maxStartDepth ≤ deepShow.startDepth := Nat.le_refl maxStartDepth
  have hfound : (deepShow.scene? topLevel).isSome := by decide +kernel
  obtain ⟨c, hc⟩ := Option.isSome_iff_exists.mp hfound
  exact ⟨c, hc, hd, (start_and_frame_end deepShow).2.2 topLevel c hc hd⟩

end Showrunner.Show
