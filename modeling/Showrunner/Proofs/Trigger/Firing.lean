import Showrunner.Trigger.Basic

/-!
When a trigger fires over the frames of a run. A trigger for a delay and one for a time of day fire
in one frame, the first in which they are due, and a trigger for a period fires in the frames that
are chosen greedily.
-/

namespace Showrunner.Trigger

/-- A frame as a trigger meets it: the clocks, the input that the triggers before it have left, and
the answer to its question. -/
structure Moment where
  clock : FrameClock
  input : Input
  holds : Bool

def Moment.time (m : Moment) : Nat := m.clock.elapsed

def meet (t : Trigger) (m : Moment) : Trigger := (t.update m.clock m.input m.holds).1

def cleared (t : Trigger) : Trigger := { t with fired := false }

def firings (t : Trigger) : List Moment → List Bool
  | [] => []
  | m :: ms => (t.meet m).fired :: (t.meet m).cleared.firings ms

def FiresAt (t : Trigger) (ms : List Moment) (i : Nat) : Prop := (t.firings ms)[i]? = some true

instance (t : Trigger) (ms : List Moment) (i : Nat) : Decidable (t.FiresAt ms i) :=
  inferInstanceAs (Decidable (_ = _))

theorem firesAt_zero (t : Trigger) (m : Moment) (ms : List Moment) :
    t.FiresAt (m :: ms) 0 ↔ (t.meet m).fired := by
  simp [FiresAt, firings]

theorem firesAt_succ (t : Trigger) (m : Moment) (ms : List Moment) (i : Nat) :
    t.FiresAt (m :: ms) (i + 1) ↔ (t.meet m).cleared.FiresAt ms i := by
  simp [FiresAt, firings]

/-- A trigger that passes through phases. It fires in the frames that its phase makes due, and such
a frame decides the next phase. Of later frames no phase makes more due than those before it. -/
structure Phased {σ : Type} (inPhase : σ → Trigger → Prop) (due : σ → Moment → Prop)
    (next : Moment → σ) : Prop where
  fires {s t} (h : inPhase s t) (m : Moment) : (t.meet m).fired ↔ due s m
  passes {s t m} (h : inPhase s t) (hd : due s m) : inPhase (next m) (t.meet m).cleared
  stays {s t m} (h : inPhase s t) (hd : ¬ due s m) : inPhase s (t.meet m).cleared
  later {s m m'} (ho : m.time ≤ m'.time) (hd : due s m) (hd' : due (next m) m') : due s m'

section

variable {σ : Type} {inPhase : σ → Trigger → Prop} {due : σ → Moment → Prop} {next : Moment → σ}
  {s : σ} {t : Trigger}

/-- The trigger fires in the frames that are due at the start and still due after each earlier
frame in which it fired. -/
theorem Phased.firesAt_iff (h : Phased inPhase due next) (ht : inPhase s t) {ms : List Moment}
    (ho : (ms.map Moment.time).Pairwise (· ≤ ·)) (i : Nat) :
    t.FiresAt ms i ↔ ∃ m, ms[i]? = some m ∧ due s m ∧
      ∀ j < i, ∀ m', ms[j]? = some m' → t.FiresAt ms j → due (next m') m := by
  induction ms generalizing s t i with
  | nil => simp [FiresAt, firings]
  | cons m ms ih =>
    obtain ⟨hm, ho⟩ := List.pairwise_cons.mp ho
    cases i with
    | zero => simp [firesAt_zero, h.fires ht]
    | succ i =>
      simp only [firesAt_succ, List.getElem?_cons_succ, Nat.forall_lt_succ_left,
        List.getElem?_cons_zero, Option.some.injEq, forall_eq', firesAt_zero, h.fires ht]
      by_cases hd : due s m
      · -- the new phase makes due what the old one does, apart from what is too early
        rw [ih (h.passes ht hd) ho]
        refine exists_congr fun m' => and_congr_right fun hm' => ?_
        constructor
        · intro ⟨hn, hr⟩
          have hle := hm m'.time (List.mem_map_of_mem (List.mem_of_getElem? hm'))
          exact ⟨h.later hle hd hn, fun _ => hn, hr⟩
        · intro ⟨_, hn, hr⟩
          exact ⟨hn hd, hr⟩
      · rw [ih (h.stays ht hd) ho]
        simp [hd]

end

theorem findIdx?_eq_some_iff {α : Type} {l : List α} {p : α → Bool} {i : Nat} :
    l.findIdx? p = some i ↔
      ∃ a, l[i]? = some a ∧ p a ∧ ∀ j < i, ∀ b, l[j]? = some b → ¬ p b := by
  rw [List.findIdx?_eq_some_iff_getElem]
  constructor
  · intro ⟨hi, hp, hf⟩
    refine ⟨l[i], List.getElem?_eq_getElem hi, hp, fun j hj b hb => ?_⟩
    obtain ⟨_, rfl⟩ := List.getElem?_eq_some_iff.mp hb
    exact hf j hj
  · intro ⟨a, ha, hp, hf⟩
    obtain ⟨hi, rfl⟩ := List.getElem?_eq_some_iff.mp ha
    exact ⟨hi, hp, fun j hj => hf j hj _ (List.getElem?_eq_getElem _)⟩

def Once (due : Moment → Bool) (t : Trigger) : Prop :=
  Phased (fun spent u => u = { t with expired := spent }) (fun spent m => spent = false ∧ due m)
    fun _ => true

theorem Once.firesAt_iff {due : Moment → Bool} {t : Trigger} (h : Once due t)
    (ht : t.expired = false) {ms : List Moment} (ho : (ms.map Moment.time).Pairwise (· ≤ ·))
    (i : Nat) : t.FiresAt ms i ↔ ms.findIdx? due = some i := by
  have hp : t = { t with expired := false } := by rw [← ht]
  have hf (i : Nat) : t.FiresAt ms i ↔ ∃ m, ms[i]? = some m ∧ due m ∧
      ∀ j < i, ∀ m', ms[j]? = some m' → ¬ t.FiresAt ms j := by
    simpa using Phased.firesAt_iff h hp ho i
  have hfirst {i : Nat} (hi : ms.findIdx? due = some i) : t.FiresAt ms i := by
    obtain ⟨m, hm, hd, hn⟩ := findIdx?_eq_some_iff.mp hi
    refine (hf i).mpr ⟨m, hm, hd, fun j hj m' hm' hj' => ?_⟩
    obtain ⟨_, hm'', hd', _⟩ := (hf j).mp hj'
    exact hn j hj _ hm'' hd'
  refine ⟨fun hi => ?_, hfirst⟩
  obtain ⟨m, hm, hd, hn⟩ := (hf i).mp hi
  cases hk : ms.findIdx? due with
  | none =>
    have hd' := List.findIdx?_eq_none_iff.mp hk m (List.mem_of_getElem? hm)
    rw [hd'] at hd
    cases hd
  | some k =>
    -- the first due frame is not later, and had it been earlier, nothing would fire now
    obtain ⟨m', hm', _, hn'⟩ := findIdx?_eq_some_iff.mp hk
    rcases Nat.lt_trichotomy k i with hki | rfl | hik
    · exact absurd (hfirst hk) (hn k hki m' hm')
    · rfl
    · exact absurd hd (hn' i hik m hm)

theorem once_of_meet {due : Moment → Bool} {t : Trigger} (hf : t.fired = false)
    (h : ∀ spent m, ({ t with expired := spent } : Trigger).meet m =
      if spent = false ∧ due m then { t with fired := true, expired := true }
      else { t with expired := spent }) : Once due t where
  fires := by
    rintro spent _ rfl m
    rw [h]
    split <;> simp_all
  passes := by
    rintro spent _ m rfl hd
    rw [h, if_pos hd]
    simp [cleared, hf]
  stays := by
    rintro spent _ m rfl hd
    rw [h, if_neg hd]
    simp [cleared, hf]
  later := by
    rintro spent m m' _ _ ⟨hn, _⟩
    cases hn

/-- What a trigger for times waits for has come. Elapsed time is counted from `since`. -/
def Condition.HasCome (since : Nat) (m : Moment) : Condition → Prop
  | .after span | .every span => since + span < m.time
  | .atTime time => time.reached m.clock.wall
  | .eachTime pattern => pattern.accepts m.clock.wall
  | _ => False

instance (since : Nat) (m : Moment) : (c : Condition) → Decidable (c.HasCome since m)
  | .after span | .every span => inferInstanceAs (Decidable (since + span < m.time))
  | .atTime time => inferInstanceAs (Decidable (time.reached m.clock.wall = true))
  | .eachTime pattern => inferInstanceAs (Decidable (pattern.accepts m.clock.wall = true))
  | .onKey _ | .onClick | .whenTrue _ | .whileTrue _ => inferInstanceAs (Decidable False)

def rearmed (t : Trigger) (now : Nat) : Trigger :=
  match t.condition with
  | .after _ | .atTime _ => { t with expired := true }
  | .every period => { t with stopwatch := now, nextEligible := deadline now period }
  | .eachTime _ => { t with nextEligible := deadline now eachTimePause }
  | _ => t

theorem meet_eq {t : Trigger} (hk : t.kind ∈ [.after, .every, .atTime, .eachTime]) (m : Moment) :
    t.meet m = if t.isLive m.time ∧ t.condition.HasCome t.stopwatch m then
      { t.rearmed m.time with fired := true } else t := by
  obtain ⟨condition, scene, fired, expired, nextEligible, stopwatch⟩ := t
  by_cases hl : isLive ⟨condition, scene, fired, expired, nextEligible, stopwatch⟩ m.clock.elapsed
  · cases condition with
    | onKey | onClick | whenTrue | whileTrue => simp [kind, Condition.kind] at hk
    | after | every | atTime | eachTime =>
      simp [meet, update, hl, Moment.time, Condition.HasCome, rearmed, apply_ite Prod.fst,
        Nat.lt_sub_iff_add_lt']
  · simp [meet, update, hl, Moment.time]

theorem once_after (delay t₀ : Nat) (scene : String) :
    Once (t₀ + delay < ·.time) (ofCondition (.after delay) scene t₀) := by
  refine once_of_meet rfl fun spent m => ?_
  rw [meet_eq (by simp [kind, Condition.kind, ofCondition])]
  cases spent <;> simp [ofCondition, isLive, Condition.HasCome, rearmed]

theorem once_atTime (time : TimeOfDay) (t₀ : Nat) (scene : String) :
    Once (time.reached ·.clock.wall) (ofCondition (.atTime time) scene t₀) := by
  refine once_of_meet rfl fun spent m => ?_
  rw [meet_eq (by simp [kind, Condition.kind, ofCondition])]
  cases spent <;> simp [ofCondition, isLive, Condition.HasCome, rearmed]

def Paced (period : Nat) (last : Nat) (t : Trigger) : Prop :=
  ∃ scene, ∃ eligible ≤ last + period, t = ⟨.every period, scene, false, false, eligible, last⟩

theorem phased_every (period : Nat) :
    Phased (Paced period) (fun last m => last + period < m.time) Moment.time := by
  have hmeet {last : Nat} {t : Trigger} (h : Paced period last t) (m : Moment) :
      t.meet m = if last + period < m.time then
        { t with fired := true, stopwatch := m.time, nextEligible := deadline m.time period }
        else t := by
    obtain ⟨scene, eligible, he, rfl⟩ := h
    rw [meet_eq (by simp [kind, Condition.kind])]
    by_cases hd : last + period < m.time
    · have hl : eligible ≤ m.time := Nat.le_of_lt (Nat.lt_of_le_of_lt he hd)
      simp [isLive, Condition.HasCome, rearmed, hd, hl]
    · simp [Condition.HasCome, hd]
  constructor
  case fires =>
    intro last t h m
    rw [hmeet h]
    obtain ⟨scene, eligible, he, rfl⟩ := h
    split <;> simp_all
  case passes =>
    intro last t m h hd
    rw [hmeet h, if_pos hd]
    obtain ⟨scene, eligible, he, rfl⟩ := h
    exact ⟨scene, _, deadline_le .., rfl⟩
  case stays =>
    intro last t m h hd
    rw [hmeet h, if_neg hd]
    obtain ⟨scene, eligible, he, rfl⟩ := h
    exact ⟨scene, eligible, he, rfl⟩
  case later =>
    intro last m m' _ hd hd'
    omega

/-- The positions of a greedy choice of times, the first of them more than a period after the start
and each further one more than a period after the one before. -/
inductive Greedy (period start : Nat) (times : List Nat) : Nat → Prop
  | first {i : Nat} (h : times.findIdx? (start + period < ·) = some i) :
    Greedy period start times i
  | next {i j time : Nat} (hi : Greedy period start times i) (ht : times[i]? = some time)
    (h : times.findIdx? (time + period < ·) = some j) : Greedy period start times j

/-- The positions that satisfy a test are those of times more than a period after the start and
after each earlier such position. -/
def Spaced (period start : Nat) (times : List Nat) (P : Nat → Prop) : Prop :=
  ∀ i, P i ↔ ∃ time, times[i]? = some time ∧ start + period < time ∧
    ∀ j < i, ∀ earlier, times[j]? = some earlier → P j → earlier + period < time

theorem exists_last (P : Nat → Prop) (n : Nat) :
    (∀ i < n, ¬ P i) ∨ ∃ i < n, P i ∧ ∀ j < n, i < j → ¬ P j := by
  induction n with
  | zero => exact .inl fun i hi => absurd hi (Nat.not_lt_zero i)
  | succ n ih =>
    by_cases hn : P n
    · exact .inr ⟨n, Nat.lt_succ_self n, hn, fun j hj hnj => absurd hj (by omega)⟩
    · rcases ih with h | ⟨i, hi, hp, h⟩
      · refine .inl fun i hi => ?_
        rcases Nat.lt_succ_iff_lt_or_eq.mp hi with hi | rfl
        · exact h i hi
        · exact hn
      · refine .inr ⟨i, Nat.lt_succ_of_lt hi, hp, fun j hj hij => ?_⟩
        rcases Nat.lt_succ_iff_lt_or_eq.mp hj with hj | rfl
        · exact h j hj hij
        · exact hn

section

variable {period start : Nat} {times : List Nat} {P : Nat → Prop}

theorem le_of_getElem? (ho : times.Pairwise (· ≤ ·)) {i j a b : Nat} (hij : i ≤ j)
    (ha : times[i]? = some a) (hb : times[j]? = some b) : a ≤ b := by
  obtain ⟨hi, rfl⟩ := List.getElem?_eq_some_iff.mp ha
  obtain ⟨hj, rfl⟩ := List.getElem?_eq_some_iff.mp hb
  rcases Nat.lt_or_eq_of_le hij with hij | rfl
  · exact List.pairwise_iff_getElem.mp ho i j hi hj hij
  · exact Nat.le_refl _

theorem Spaced.add_lt (h : Spaced period start times P) {i j a b : Nat} (hij : i < j)
    (ha : times[i]? = some a) (hb : times[j]? = some b) (hi : P i) (hj : P j) : a + period < b := by
  obtain ⟨b', hb', _, hspaced⟩ := (h j).mp hj
  obtain rfl : b = b' := Option.some.inj (hb.symm.trans hb')
  exact hspaced i hij a ha hi

theorem Spaced.le_of_not (h : Spaced period start times P) {j b : Nat} (hb : times[j]? = some b)
    (hj : ¬ P j) :
    b ≤ start + period ∨ ∃ i < j, ∃ a, times[i]? = some a ∧ P i ∧ b ≤ a + period := by
  refine Classical.byContradiction fun hn => hj ((h j).mpr ⟨b, hb, ?_, ?_⟩)
  · exact Nat.lt_of_not_le fun hle => hn (.inl hle)
  · intro i hij a ha hi
    exact Nat.lt_of_not_le fun hle => hn (.inr ⟨i, hij, a, ha, hi, hle⟩)

theorem Spaced.of_greedy (h : Spaced period start times P) (ho : times.Pairwise (· ≤ ·)) {i : Nat}
    (hg : Greedy period start times i) : P i := by
  induction hg with
  | @first i hi =>
    obtain ⟨time, ht, hd, hn⟩ := findIdx?_eq_some_iff.mp hi
    refine (h i).mpr ⟨time, ht, of_decide_eq_true hd, fun j hj earlier he hp => ?_⟩
    obtain ⟨_, he', hd', _⟩ := (h j).mp hp
    exact absurd (decide_eq_true hd') (hn j hj _ he')
  | @next i j s _ hs hj hp =>
    obtain ⟨time, ht, hd, hn⟩ := findIdx?_eq_some_iff.mp hj
    obtain ⟨s', hs', hstart, hspaced⟩ := (h i).mp hp
    obtain rfl : s = s' := Option.some.inj (hs.symm.trans hs')
    have hd : s + period < time := of_decide_eq_true hd
    refine (h j).mpr ⟨time, ht, by omega, fun k hk earlier he hp' => ?_⟩
    rcases Nat.lt_or_ge i k with hik | hki
    · -- between the two positions nothing is more than a period after the first of them
      obtain ⟨_, he', _, hspaced'⟩ := (h k).mp hp'
      exact absurd (decide_eq_true (hspaced' i hik s hs hp)) (hn k hk _ he')
    · have hle := le_of_getElem? ho hki he hs
      omega

theorem Spaced.greedy (h : Spaced period start times P) (ho : times.Pairwise (· ≤ ·)) (i : Nat)
    (hp : P i) : Greedy period start times i := by
  induction i using Nat.strongRecOn with
  | ind i ih =>
    obtain ⟨time, ht, hstart, hspaced⟩ := (h i).mp hp
    rcases exists_last P i with hnone | ⟨j, hj, hpj, hlast⟩
    · refine .first (findIdx?_eq_some_iff.mpr ⟨time, ht, decide_eq_true hstart, ?_⟩)
      intro k hk earlier he hd
      refine hnone k hk ((h k).mpr ⟨earlier, he, of_decide_eq_true hd, fun l hl _ _ hpl => ?_⟩)
      exact absurd hpl (hnone l (Nat.lt_trans hl hk))
    · obtain ⟨s, hs, hstart', _⟩ := (h j).mp hpj
      refine .next (ih j hj hpj) hs (findIdx?_eq_some_iff.mpr
        ⟨time, ht, decide_eq_true (hspaced j hj s hs hpj), ?_⟩)
      intro k hk earlier he hd
      have hd : s + period < earlier := of_decide_eq_true hd
      have hjk : j < k := by
        refine Nat.lt_of_not_le fun hkj => ?_
        have hle := le_of_getElem? ho hkj he hs
        omega
      refine hlast k hk hjk ((h k).mpr ⟨earlier, he, by omega, fun l hl t htl hpl => ?_⟩)
      have hlj : l ≤ j := Nat.le_of_not_lt fun hjl => hlast l (Nat.lt_trans hl hk) hjl hpl
      have hle := le_of_getElem? ho hlj htl hs
      omega

theorem Spaced.iff_greedy (h : Spaced period start times P) (ho : times.Pairwise (· ≤ ·))
    (i : Nat) : P i ↔ Greedy period start times i :=
  ⟨h.greedy ho i, h.of_greedy ho⟩

end

theorem spaced_every (period t₀ : Nat) (scene : String) {ms : List Moment}
    (ho : (ms.map Moment.time).Pairwise (· ≤ ·)) :
    Spaced period t₀ (ms.map Moment.time) ((ofCondition (.every period) scene t₀).FiresAt ms) := by
  intro i
  have hp : Paced period t₀ (ofCondition (.every period) scene t₀) :=
    ⟨scene, 0, Nat.zero_le _, rfl⟩
  rw [(phased_every period).firesAt_iff hp ho]
  simp only [List.getElem?_map, Option.map_eq_some_iff, forall_exists_index, and_imp,
    forall_apply_eq_imp_iff₂]
  constructor
  · intro ⟨m, hm, h⟩
    exact ⟨m.time, ⟨m, hm, rfl⟩, h⟩
  · rintro ⟨_, ⟨m, hm, rfl⟩, h⟩
    exact ⟨m, hm, h⟩

/-- In frames whose times do not decrease, a trigger for a delay fires once, in the first frame
later than the delay after it was built. A trigger for a time of day fires once, in the first frame
in which the clock shows the minute of the time, at its second or after it. A trigger for a period
fires in the frames that are chosen greedily: any two of them are more than the period apart, and
each other frame is not yet more than the period after the start or after one of them. -/
theorem fires_on_time (scene : String) (t₀ : Nat) (ms : List Moment)
    (ho : (ms.map Moment.time).Pairwise (· ≤ ·)) :
    (∀ delay i, (ofCondition (.after delay) scene t₀).FiresAt ms i ↔
      ms.findIdx? (t₀ + delay < ·.time) = some i) ∧
    (∀ (time : TimeOfDay) i, (ofCondition (.atTime time) scene t₀).FiresAt ms i ↔
      ms.findIdx? (fun m => m.clock.wall.hour = time.hour ∧ m.clock.wall.minute = time.minute ∧
        time.second ≤ m.clock.wall.second) = some i) ∧
    ∀ period,
      let fires := (ofCondition (.every period) scene t₀).FiresAt ms
      let times := ms.map Moment.time
      (∀ i, fires i ↔ Greedy period t₀ times i) ∧
      (∀ i j a b, i < j → times[i]? = some a → times[j]? = some b → fires i → fires j →
        a + period < b) ∧
      ∀ j b, times[j]? = some b → ¬ fires j →
        b ≤ t₀ + period ∨ ∃ i < j, ∃ a, times[i]? = some a ∧ fires i ∧ b ≤ a + period := by
  refine ⟨fun delay => (once_after delay t₀ scene).firesAt_iff rfl ho, fun time i => ?_,
    fun period => ?_⟩
  · have hdue : (fun m : Moment => decide (m.clock.wall.hour = time.hour ∧
        m.clock.wall.minute = time.minute ∧ time.second ≤ m.clock.wall.second)) =
        (time.reached ·.clock.wall) := by
      funext m
      refine Bool.eq_iff_iff.mpr ?_
      simp [TimeOfDay.reached, and_assoc]
    rw [hdue]
    exact (once_atTime time t₀ scene).firesAt_iff rfl ho i
  · intro fires times
    have hs : Spaced period t₀ times fires := spaced_every period t₀ scene ho
    exact ⟨hs.iff_greedy ho, fun i j a b => hs.add_lt, fun j b => hs.le_of_not⟩

def unevenMoments : List Moment :=
  [(0, 29), (40, 29), (40, 30), (41, 31), (60, 32), (300, 33)].map fun (time, second) =>
    ⟨⟨time, .ofTime 12 0 second⟩, {}, false⟩

theorem fires_on_time_uneven :
    (unevenMoments.map Moment.time).Pairwise (· ≤ ·) ∧
    (∀ i, (ofCondition (.after 40) "main" 0).FiresAt unevenMoments i ↔ i = 3) ∧
    (∀ i, (ofCondition (.atTime ⟨12, 0, 30⟩) "main" 0).FiresAt unevenMoments i ↔ i = 2) ∧
    (ofCondition (.every 19) "main" 0).FiresAt unevenMoments 1 ∧
    (∀ i, (ofCondition (.every 19) "main" 0).FiresAt unevenMoments i ↔
      Greedy 19 0 [0, 40, 40, 41, 60, 300] i) := by
  have ho : (unevenMoments.map Moment.time).Pairwise (· ≤ ·) := by decide
  obtain ⟨hafter, hat, hevery⟩ := fires_on_time "main" 0 unevenMoments ho
  have hdelay : unevenMoments.findIdx? (0 + 40 < ·.time) = some 3 := by decide
  refine ⟨ho, fun i => ?_, fun i => ?_, ?_, (hevery 19).1⟩
  · rw [hafter, hdelay, Option.some.injEq, eq_comm]
  · have htime : unevenMoments.findIdx? (fun m => m.clock.wall.hour = 12 ∧
        m.clock.wall.minute = 0 ∧ 30 ≤ m.clock.wall.second) = some 2 := by decide
    rw [hat, htime, Option.some.injEq, eq_comm]
  · exact ((hevery 19).1 1).mpr (.first (by decide))

end Showrunner.Trigger
