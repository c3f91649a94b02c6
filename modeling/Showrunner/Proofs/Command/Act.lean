import Mathlib.Logic.Relation
import Showrunner.Command.Act
import Showrunner.Proofs.Run

namespace Showrunner.Act

open Relation

variable {α β : Type} {M N : Show → Show → Prop} {s : Show}

/-- The step succeeds from this show, and moves lead to the show after it. -/
def SureAt (M : Show → Show → Prop) (m : Act α) (s : Show) : Prop :=
  ∃ a t, m.run.run s = (.ok a, t) ∧ ReflTransGen M s t

/-- The step fails and leaves this show as it is, or it succeeds by moves. -/
def SoundAt (M : Show → Show → Prop) (m : Act α) (s : Show) : Prop :=
  (∃ e, m.run.run s = (.error e, s)) ∨ SureAt M m s

theorem SureAt.mono {m : Act α} (hi : ∀ s t, M s t → N s t) (h : SureAt M m s) :
    SureAt N m s := by
  obtain ⟨a, t, ha, ht⟩ := h
  exact ⟨a, t, ha, ReflTransGen.mono hi s t ht⟩

theorem SoundAt.mono {m : Act α} (hi : ∀ s t, M s t → N s t) (h : SoundAt M m s) :
    SoundAt N m s :=
  h.imp_right (SureAt.mono hi)

theorem sure_pure (a : α) : SureAt M (pure a) s := ⟨a, s, rfl, .refl⟩

theorem sure_modify {f : Show → Show} (h : ReflTransGen M s (f s)) : SureAt M (modify f) s :=
  ⟨(), f s, rfl, h⟩

theorem SureAt.bind {m : Act α} {f : α → Act β} (hm : SureAt M m s)
    (hf : ∀ a t, m.run.run s = (.ok a, t) → SureAt M (f a) t) : SureAt M (m >>= f) s := by
  obtain ⟨a, t, ha, ht⟩ := hm
  obtain ⟨b, u, hb, hu⟩ := hf a t ha
  exact ⟨b, u, (run_bind_ok ha).trans hb, ht.trans hu⟩

theorem SureAt.returning {m : Act α} (h : SureAt M m s) (b : β) :
    SureAt M (m >>= fun _ => pure b) s :=
  h.bind fun _ _ _ => sure_pure b

theorem SureAt.get {f : Show → Act β} (h : SureAt M (f s) s) : SureAt M (MonadState.get >>= f) s :=
  SureAt.bind ⟨s, s, rfl, .refl⟩ fun _ _ he => by cases he; exact h

theorem SoundAt.lift {e : Except CommandError α} {f : α → Act β}
    (h : ∀ a, e = .ok a → SoundAt M (f a) s) : SoundAt M (liftM e >>= f) s := by
  cases e with
  | error e => exact .inl ⟨e, run_bind_error (run_lift _ s)⟩
  | ok a =>
    have hb : (liftM (.ok a : Except CommandError α) >>= f).run.run s = (f a).run.run s :=
      run_bind_ok (run_lift _ s)
    unfold SoundAt SureAt
    rw [hb]
    exact h a rfl

theorem SoundAt.get {f : Show → Act β} (h : SoundAt M (f s) s) :
    SoundAt M (MonadState.get >>= f) s :=
  h

theorem SoundAt.throw (e : CommandError) : SoundAt M (MonadExcept.throw e : Act α) s :=
  .inl ⟨e, rfl⟩

theorem SureAt.sound {m : Act α} (h : SureAt M m s) : SoundAt M m s := .inr h

theorem SoundAt.bind {m : Act α} {f : α → Act β} (hm : SoundAt M m s)
    (hf : ∀ a t, m.run.run s = (.ok a, t) → SureAt M (f a) t) : SoundAt M (m >>= f) s := by
  rcases hm with ⟨e, he⟩ | hm
  · exact .inl ⟨e, run_bind_error he⟩
  · exact .inr (hm.bind hf)

/-- Moves lead from this show to the one after the step, whether the step succeeds or fails. -/
def LeadsAt (M : Show → Show → Prop) (m : Act α) (s : Show) : Prop :=
  ReflTransGen M s (m.run.run s).2

theorem LeadsAt.lift {e : Except CommandError α} {f : α → Act β}
    (h : ∀ a, e = .ok a → LeadsAt M (f a) s) : LeadsAt M (liftM e >>= f) s := by
  unfold LeadsAt
  cases e with
  | error e => rw [run_bind_error (run_lift _ s)]
  | ok a =>
    rw [run_bind_ok (run_lift _ s)]
    exact h a rfl

theorem LeadsAt.bind {m : Act α} {f : α → Act β} (hm : LeadsAt M m s)
    (hf : ∀ a t, m.run.run s = (.ok a, t) → LeadsAt M (f a) t) : LeadsAt M (m >>= f) s := by
  unfold LeadsAt at hm ⊢
  rcases hr : m.run.run s with ⟨e | a, t⟩
  · rw [run_bind_error hr]
    rwa [hr] at hm
  · rw [run_bind_ok hr]
    rw [hr] at hm
    exact hm.trans (hf a t hr)

theorem LeadsAt.returning {m : Act α} (h : LeadsAt M m s) (b : β) :
    LeadsAt M (m >>= fun _ => pure b) s :=
  h.bind fun _ _ _ => .refl

theorem SoundAt.moves {m : Act α} (h : SoundAt M m s) : LeadsAt M m s := by
  unfold LeadsAt
  rcases h with ⟨e, he⟩ | ⟨a, t, ht, hm⟩
  · rw [he]
  · rwa [ht]

theorem SoundAt.eq_of_error {m : Act α} (h : SoundAt M m s) {e : CommandError} {t : Show}
    (he : m.run.run s = (.error e, t)) : t = s := by
  rcases h with ⟨e', hs⟩ | ⟨a, u, hu, _⟩
  · rw [hs] at he
    exact (Prod.mk.inj he).2.symm
  · rw [hu] at he
    cases he

end Showrunner.Act
