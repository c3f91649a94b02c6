import Showrunner.Proofs.Show.Visits

namespace Showrunner

/-- What the user can do that one trigger takes: press a key of some name, or click. -/
inductive Press where
  | key (name : String)
  | click

theorem Input.click_takeKey (input : Input) (filter : Option String) :
    (input.takeKey filter).2.click = input.click := by
  unfold takeKey
  split
  · rfl
  · split <;> rfl

namespace Press

def pending : Press → Input → Bool
  | key name, input => input.key == some name
  | click, input => input.click.isSome

def Gone : Press → Input → Prop
  | key _, input => input.key = none
  | click, input => input.click = none

def kind : Press → Trigger.Kind
  | key _ => .onKey
  | click => .onClick

/-- The trigger waits for it. A trigger for keys that names one waits for no other, up to the case
of the letters `A` to `Z`. -/
def wantedBy : Press → Trigger → Bool
  | key name, t =>
    match t.condition with
    | .onKey none => true
    | .onKey (some wanted) => name.toList.map Char.toLower = wanted.toList.map Char.toLower
    | _ => false
  | click, t => t.kind = .onClick

def Alone : Press → Input → Prop
  | key name, input => ∀ other, input.key = some other → other = name
  | click, _ => True

variable {press : Press}

theorem alone_of_pending {input : Input} (h : press.pending input) : press.Alone input := by
  cases press with
  | key name =>
    intro other ho
    simpa [pending, ho] using h
  | click => trivial

theorem gone_iff {input : Input} (h : press.Alone input) :
    press.Gone input ↔ press.pending input = false := by
  cases press with
  | key name =>
    cases hk : input.key with
    | none => simp [Gone, pending, hk]
    | some other =>
      obtain rfl := h other hk
      simp [Gone, pending, hk]
  | click => simp [Gone, pending]

abbrev Update := Trigger × Trigger

def firedBy (press : Press) (u : Update) : Bool := u.1.kind = press.kind && u.2.fired

def wantedIn (press : Press) (u : Update) : Bool := press.wantedBy u.1

/-- What becomes of a press in the update of a trigger: a trigger that wants it takes it, and fires
just then. -/
structure Handles (press : Press) (input : Input) (t : Trigger) (after : Trigger × Input) :
    Prop where
  alone : press.Alone after.2
  pending : press.pending after.2 = (press.pending input && !press.wantedBy t)
  fired : press.firedBy (t, after.1) = (press.pending input && press.wantedBy t)

theorem wantedBy_of_kind_ne {t : Trigger} (hk : t.kind ≠ press.kind) :
    press.wantedBy t = false := by
  obtain ⟨condition, _, _, _, _, _⟩ := t
  cases press with
  | key name => cases condition <;> first | rfl | exact absurd rfl hk
  | click => simpa [wantedBy, kind] using hk

theorem wantedBy_key {t : Trigger} {filter : Option String} (hc : t.condition = .onKey filter)
    (name : String) : (key name).wantedBy t = Input.accepts filter name := by
  unfold wantedBy
  dsimp only
  rw [hc]
  cases filter with
  | none => rfl
  | some wanted =>
    apply Bool.eq_iff_iff.mpr
    simp [Input.accepts, Text.sameIgnoringCase, Text.lowerAscii, String.ofList_inj]

theorem handles_of_kind_ne {t : Trigger} {after : Trigger × Input} {input : Input}
    (hk : t.kind ≠ press.kind) (ha : press.Alone after.2)
    (hp : press.pending after.2 = press.pending input) : press.Handles input t after := by
  have hw := wantedBy_of_kind_ne hk
  exact ⟨ha, by simp [hp, hw], by simp [firedBy, hk, hw]⟩

theorem handles_key {t : Trigger} {filter : Option String} (hc : t.condition = .onKey filter)
    {name : String} {input : Input} (hi : (key name).Alone input) :
    (key name).Handles input t
      ({ t with fired := (input.takeKey filter).1.isSome }, (input.takeKey filter).2) := by
  have hk : t.kind = .onKey := by simp [Trigger.kind, hc, Trigger.Condition.kind]
  cases hkey : input.key with
  | none =>
    have ht : input.takeKey filter = (none, input) := by simp [Input.takeKey, hkey]
    rw [ht]
    exact ⟨hi, by simp [pending, hkey], by simp [pending, hkey, firedBy]⟩
  | some other =>
    obtain rfl := hi other hkey
    cases ha : Input.accepts filter other with
    | true =>
      have ht : input.takeKey filter = (some other, { input with key := none }) := by
        simp [Input.takeKey, hkey, ha]
      rw [ht]
      refine ⟨fun _ hn => absurd hn (Option.some_ne_none _).symm, ?_, ?_⟩
      · simp [pending, hkey, wantedBy_key hc, ha]
      · simp [pending, hkey, firedBy, wantedBy_key hc, ha, hk, kind]
    | false =>
      have ht : input.takeKey filter = (none, input) := by simp [Input.takeKey, hkey, ha]
      rw [ht]
      refine ⟨hi, ?_, ?_⟩
      · simp [pending, hkey, wantedBy_key hc, ha]
      · simp [pending, hkey, firedBy, wantedBy_key hc, ha]

theorem handles_update {t : Trigger} (ht : t.Settled) {input : Input} (hi : press.Alone input)
    (clock : FrameClock) (holds : Bool) : press.Handles input t (t.update clock input holds) := by
  -- A trigger for keys or clicks is live at every update, so each one asks for the press.
  by_cases hkey : t.kind = .onKey
  · obtain ⟨filter, hc⟩ := t.exists_of_kind_onKey hkey
    rw [Trigger.update_of_onKey clock input holds hc (ht.isLive (.inl hkey) _)]
    cases press with
    | key name => exact handles_key hc hi
    | click =>
      refine handles_of_kind_ne (by simp [hkey, kind]) trivial ?_
      simp [pending, Input.click_takeKey]
  · by_cases hclick : t.kind = .onClick
    · have hc := t.condition_of_kind_onClick hclick
      rw [Trigger.update_of_onClick clock input holds hc (ht.isLive (.inr hclick) _)]
      cases press with
      | key name => exact handles_of_kind_ne (by simp [hclick, kind]) hi rfl
      | click =>
        exact ⟨trivial, by simp [pending, wantedBy, hclick],
          by simp [pending, firedBy, wantedBy, hclick, kind]⟩
    · have hin := t.update_input clock input holds hkey hclick
      refine handles_of_kind_ne ?_ (by rwa [hin]) (by rw [hin])
      cases press with
      | key name => exact hkey
      | click => exact hclick

/-- Some updates, with whether the press is pending before them and after them. A trigger fires by
the press if it wants it while it is pending, and then the press is gone. -/
inductive Takes (press : Press) : Bool → List Update → Bool → Prop
  | done (pending : Bool) : Takes press pending [] pending
  | next {pending left : Bool} {u : Update} {us : List Update}
    (hf : press.firedBy u = (pending && press.wantedIn u))
    (h : Takes press (pending && !press.wantedIn u) us left) : Takes press pending (u :: us) left

namespace Takes

variable {before between left : Bool} {us vs : List Update}

theorem append (h : Takes press before us between) (k : Takes press between vs left) :
    Takes press before (us ++ vs) left := by
  induction h with
  | done => exact k
  | next hf _ ih => exact .next hf (ih k)

theorem none_fired (h : Takes press false us left) :
    left = false ∧ us.filter press.firedBy = [] := by
  generalize hp : false = pending at h
  induction h with
  | done =>
    subst hp
    exact ⟨rfl, rfl⟩
  | next hf _ ih =>
    subst hp
    obtain ⟨hl, hs⟩ := ih (by simp)
    exact ⟨hl, by rw [List.filter_cons_of_neg (by simp [hf]), hs]⟩

/-- A pending press is taken by the first trigger that wants it, and by no other. -/
theorem first_fired (h : Takes press true us left) :
    us.filter press.firedBy = (us.find? press.wantedIn).toList ∧
      left = !us.any press.wantedIn := by
  generalize hp : true = pending at h
  induction h with
  | done =>
    subst hp
    exact ⟨rfl, rfl⟩
  | @next pending left u us hf h ih =>
    subst hp
    rw [Bool.true_and] at hf h ih
    cases hw : press.wantedIn u with
    | true =>
      -- It is gone now, so that none of the others fires.
      rw [hw] at hf h
      obtain ⟨hl, hs⟩ := h.none_fired
      exact ⟨by simp [hf, hs, hw], by simp [hl, hw]⟩
    | false =>
      rw [hw] at hf ih
      obtain ⟨hs, hl⟩ := ih rfl
      exact ⟨by simp [hf, hs, hw], by simp [hl, hw]⟩

theorem gone_iff_fired (h : Takes press true us left) :
    left = false ↔ ∃ u ∈ us, press.firedBy u := by
  obtain ⟨hfirst, rfl⟩ := h.first_fired
  rw [Bool.not_eq_false', List.any_eq_true]
  cases hw : us.find? press.wantedIn with
  | none =>
    rw [hw, Option.toList_none, List.filter_eq_nil_iff] at hfirst
    rw [List.find?_eq_none] at hw
    constructor
    · rintro ⟨u, hu, hwu⟩
      exact absurd hwu (hw u hu)
    · rintro ⟨u, hu, hfu⟩
      exact absurd hfu (hfirst u hu)
  | some u =>
    have hu : u ∈ us.filter press.firedBy := by simp [hfirst, hw]
    obtain ⟨hm, hf⟩ := List.mem_filter.mp hu
    exact ⟨fun _ => ⟨u, hm, hf⟩, fun _ => ⟨u, hm, List.find?_some hw⟩⟩

end Takes

end Press

namespace Show

open Press

def visitUpdates (s : Show) (input : Input) (index : Nat) : List Update :=
  match s.scenes[index]? with
  | none => []
  | some c =>
    if c.enabled then c.triggers.zip (updateTriggers c.name c.triggers input s).1 else []

def frameUpdates (s : Show) (clock : FrameClock) (input : Input) : List Update :=
  (List.range s.scenes.length).flatMap fun index =>
    (s.turn clock input index).1.visitUpdates (s.turn clock input index).2 index

variable {press : Press} {s : Show} {input : Input}

theorem handles_updateTrigger (s : Show) (scene : String) {t : Trigger} (ht : t.Settled)
    (hi : press.Alone input) :
    press.Handles input t
      ((s.updateTrigger scene input t).1, (s.updateTrigger scene input t).2.1) := by
  unfold updateTrigger
  split
  · exact handles_update ht hi _ _
  · exact handles_update ht hi _ _

theorem takes_updateTriggers (s : Show) (scene : String) {ts : List Trigger}
    (ht : ∀ t ∈ ts, t.Settled) (hi : press.Alone input) :
    press.Alone (updateTriggers scene ts input s).2.1 ∧
      Takes press (press.pending input) (ts.zip (updateTriggers scene ts input s).1)
        (press.pending (updateTriggers scene ts input s).2.1) := by
  induction ts generalizing input s with
  | nil => exact ⟨hi, .done _⟩
  | cons t ts ih =>
    have hu := handles_updateTrigger s scene (ht t List.mem_cons_self) hi
    obtain ⟨ha, hs⟩ := ih (s.updateTrigger scene input t).2.2
      (fun u hm => ht u (List.mem_cons_of_mem _ hm)) hu.alone
    refine ⟨ha, .next hu.fired ?_⟩
    rw [hu.pending] at hs
    exact hs

theorem takes_visit (h : s.Coherent) (hi : press.Alone input) (index : Nat) :
    press.Alone (s.visit input index).2 ∧
      Takes press (press.pending input) (s.visitUpdates input index)
        (press.pending (s.visit input index).2) := by
  cases hc : s.scenes[index]? with
  | none =>
    simp only [visitUpdates, visit, hc]
    exact ⟨hi, .done _⟩
  | some c =>
    cases he : c.enabled with
    | false =>
      simp only [visitUpdates, visit_of_not_enabled hc he, hc, he]
      exact ⟨hi, .done _⟩
    | true =>
      simp only [visitUpdates, visit_of_enabled hc he rfl, hc, he, if_true]
      exact takes_updateTriggers s c.name (h.scene c (List.mem_of_getElem? hc)).settled hi

theorem pending_opened (s : Show) (clock : FrameClock) (input : Input) :
    press.pending (s.opened clock input).2 = press.pending input := by
  obtain ⟨hk, hc⟩ := publish_input (s.setClock clock) input
  unfold opened
  cases press with
  | key name => simp [pending, hk]
  | click => simp [pending, hc]

theorem takes_turn (h : s.Coherent) (clock : FrameClock) (hi : press.pending input) (n : Nat) :
    press.Alone (s.turn clock input n).2 ∧
      Takes press true
        ((List.range n).flatMap fun index =>
          (s.turn clock input index).1.visitUpdates (s.turn clock input index).2 index)
        (press.pending (s.turn clock input n).2) := by
  induction n with
  | zero =>
    have hp : press.pending (s.turn clock input 0).2 = true :=
      (pending_opened s clock input).trans hi
    refine ⟨alone_of_pending hp, ?_⟩
    rw [hp]
    exact .done true
  | succ n ih =>
    -- The actions of earlier scenes may have rebuilt this one, but its triggers are still settled.
    obtain ⟨ha, hs⟩ := takes_visit (h.turn clock input n) ih.1 n
    rw [List.range_succ, List.flatMap_append, List.flatMap_singleton]
    exact ⟨ha, ih.2.append hs⟩

theorem takes_frame (h : s.Coherent) (clock : FrameClock) (hi : press.pending input) :
    press.Alone (s.frame clock input).2 ∧
      Takes press true (s.frameUpdates clock input) (press.pending (s.frame clock input).2) := by
  rw [frame_eq_turn]
  exact takes_turn h clock hi s.scenes.length

/-- A press that is pending when a frame begins is taken by the first trigger that wants it, in the
order of the scenes and of their triggers, and makes no other trigger fire. It is gone after the
frame just if a trigger fired by it. If it is left, no trigger that was updated wants it. -/
theorem frame_takes_press (h : Reachable Call.Proper s) (clock : FrameClock)
    (hp : press.pending input) :
    (s.frameUpdates clock input).filter press.firedBy =
      ((s.frameUpdates clock input).find? press.wantedIn).toList ∧
    (press.Gone (s.frame clock input).2 ↔ ∃ u ∈ s.frameUpdates clock input, press.firedBy u) ∧
    (press.pending (s.frame clock input).2 →
      ∀ u ∈ s.frameUpdates clock input, press.wantedIn u = false) := by
  obtain ⟨halone, htakes⟩ := takes_frame h.coherent clock hp
  obtain ⟨hfirst, hleft⟩ := htakes.first_fired
  refine ⟨hfirst, ?_, fun hl u hu => ?_⟩
  · rw [gone_iff halone]
    exact htakes.gone_iff_fired
  · rw [hleft, Bool.not_eq_true', List.any_eq_false] at hl
    exact Bool.eq_false_iff.mpr (hl u hu)

def lettersScript : Script :=
  ⟨[.ofContent topLevel ⟨""⟩ ["on key b", "echo b", "on key A", "echo a"]], []⟩

def lettersShow : Show :=
  [.install lettersScript, .begin ⟨0, .midnight⟩, .frame ⟨40, .midnight⟩ {}].foldl Call.run
    (.start (640, 480) 30 Expression.evaluate .still .empty)

theorem loaded_lettersScript : lettersScript.Loaded :=
  ⟨.empty, .inr ⟨"on key b\necho b\non key A\necho a", ⟨""⟩, rfl⟩⟩

/-- A key goes past the trigger for another key, and the top level takes the click that it waits
for. -/
theorem frame_takes_press_letters :
    (Press.key "a").Gone (lettersShow.frame ⟨80, .midnight⟩ (Input.pressKey {} "a")).2 ∧
    ((lettersShow.frameUpdates ⟨80, .midnight⟩ (Input.pressKey {} "a")).filter
      (Press.key "a").firedBy).map (·.1.condition) = [.onKey (some "A")] ∧
    Press.click.Gone (clickShow.frame ⟨80, .midnight⟩ (Input.clickAt {} 0 0)).2 := by
  have hletters : Reachable Call.Proper lettersShow :=
    reachable_of_loaded loaded_lettersScript (.start ..) _ _
  have hkey : (Press.key "a").pending (Input.pressKey {} "a") := rfl
  have hclick : Press.click.pending (Input.clickAt {} 0 0) := rfl
  obtain ⟨hfirst, hgone, -⟩ := frame_takes_press hletters ⟨80, .midnight⟩ hkey
  obtain ⟨-, hclick, -⟩ := frame_takes_press reachable_clickShow ⟨80, .midnight⟩ hclick
  have hconditions : ((lettersShow.frameUpdates ⟨80, .midnight⟩ (Input.pressKey {} "a")).filter
      (Press.key "a").firedBy).map (·.1.condition) = [.onKey (some "A")] := by
    rw [hfirst]
    decide +kernel
  refine ⟨hgone.mpr ?_, hconditions, hclick.mpr ?_⟩
  · obtain ⟨u, hu, -⟩ := List.mem_map.mp (hconditions ▸ List.mem_singleton_self _)
    exact ⟨u, List.mem_filter.mp hu⟩
  · have hfired : (clickShow.frameUpdates ⟨80, .midnight⟩ (Input.clickAt {} 0 0)).any
        Press.click.firedBy := by decide +kernel
    exact List.any_eq_true.mp hfired

end Show
end Showrunner
