/-!
Runs of steps that may fail, alone or over a state.
-/

namespace Showrunner

section

variable {ε σ α β : Type} {m : ExceptT ε (StateM σ) α} {f : α → ExceptT ε (StateM σ) β} {s t : σ}

theorem run_bind_ok {a : α} (h : m.run.run s = (.ok a, t)) :
    (m >>= f).run.run s = (f a).run.run t := by
  change ExceptT.bindCont f (m.run.run s).1 (m.run.run s).2 = _
  rw [h]
  rfl

theorem run_bind_error {e : ε} (h : m.run.run s = (.error e, t)) :
    (m >>= f).run.run s = (.error e, t) := by
  change ExceptT.bindCont f (m.run.run s).1 (m.run.run s).2 = _
  rw [h]
  rfl

theorem run_bind_return (g : α → β) :
    (m >>= fun a => pure (g a)).run.run s = ((m.run.run s).1.map g, (m.run.run s).2) := by
  rcases h : m.run.run s with ⟨e | a, t⟩
  · exact run_bind_error h
  · exact run_bind_ok h

theorem run_lift (e : Except ε α) (s : σ) :
    (liftM e : ExceptT ε (StateM σ) α).run.run s = (e, s) := by
  cases e <;> rfl

end

theorem error_or_ok_of_map_eq {ε α β : Type} {f : α → β} {x y : Except ε α}
    (h : x.map f = y.map f) :
    (∃ e, x = .error e ∧ y = .error e) ∨ ∃ a b, x = .ok a ∧ y = .ok b ∧ f a = f b := by
  cases x with
  | error e =>
    cases y with
    | error e' =>
      cases h
      exact .inl ⟨e, rfl, rfl⟩
    | ok b => cases h
  | ok a =>
    cases y with
    | error e' => cases h
    | ok b => exact .inr ⟨a, b, rfl, rfl, Except.ok.inj h⟩

end Showrunner
