import Showrunner.Proofs.Show.Course
import Showrunner.Proofs.Show.Rules

/-!
What the steps of a command send. A step is told by what holds of each effect that it sends,
whether it succeeds or fails.
-/

namespace Showrunner

open Act Show

/-- The effects that are sent on the way from one show to another have a property. -/
def Show.Emits (P : Effect → Prop) (s t : Show) : Prop :=
  ∃ effects, t.stage.journal.toList = s.stage.journal.toList ++ effects ∧ ∀ e ∈ effects, P e

variable {P : Effect → Prop} {inv : Invocation} {s t : Show} {α : Type} {e : Effect}

namespace Show.Emits

theorem of_journal (h : t.stage.journal = s.stage.journal) : Emits P s t :=
  ⟨[], by simp [h], by simp⟩

theorem send (h : P e) : Emits P s (s.send e) :=
  ⟨[e], s.stage.journal_apply e, by simpa using h⟩

theorem trans {u : Show} (h : Emits P s t) (k : Emits P t u) : Emits P s u := by
  obtain ⟨effects, he, hp⟩ := h
  obtain ⟨others, ho, hq⟩ := k
  refine ⟨effects ++ others, by rw [ho, he, List.append_assoc], fun e hm => ?_⟩
  exact (List.mem_append.mp hm).elim (hp e) (hq e)

theorem of_moves (h : Relation.ReflTransGen (Emits P) s t) : Emits P s t := by
  induction h with
  | refl => exact of_journal rfl
  | tail _ h ih => exact ih.trans h

theorem sentSince (h : Emits P s t) : ∀ e ∈ sentSince s t, P e := by
  obtain ⟨effects, he, hp⟩ := h
  rwa [sentSince_eq he]

end Show.Emits

namespace Act

theorem emits_pure (a : α) : LeadsAt (Emits P) (pure a) s := .refl

theorem emits_still {m : Act α} (h : (m.run.run s).2.stage.journal = s.stage.journal) :
    LeadsAt (Emits P) m s :=
  .single (.of_journal h)

theorem emits_modify {f : Show → Show} (h : Relation.ReflTransGen (Emits P) s (f s)) :
    LeadsAt (Emits P) (modify f) s :=
  h

theorem emits_send (h : P e) : LeadsAt (Emits P) (send e) s := .single (.send h)

theorem emits_report (p : Problem) : LeadsAt (Emits P) (report inv p) s := emits_still rfl

theorem emits_duration (text : Option String) : LeadsAt (Emits P) (duration text) s := by
  cases text <;> exact emits_still rfl

theorem emits_resolve (kind : TagKind) (tag : String) :
    LeadsAt (Emits P) (resolve inv kind tag) s := by
  rcases run_resolve inv s kind tag with ⟨_, _, hr⟩ | hr
  · exact emits_still (by rw [hr])
  · exact emits_still (by rw [hr]; rfl)

theorem emits_sendTo {kind : TagKind} {tag : String} {effect : String → Effect}
    (h : ∀ name, P (effect name)) : LeadsAt (Emits P) (sendTo inv kind tag effect) s := by
  refine (emits_resolve kind tag).bind fun name _ _ => ?_
  cases name with
  | none => exact emits_pure ()
  | some name => exact emits_send (h name)

theorem emits_toSprite {name : String} {effect : String → Effect} (h : ∀ tag, P (effect tag)) :
    LeadsAt (Emits P) (toSprite inv name effect) s :=
  .lift fun _ _ => (emits_sendTo h).returning _

theorem emits_toEach {kind : TagKind} {effect : String → Effect} (h : ∀ name, P (effect name))
    (tags : List String) : LeadsAt (Emits P) (toEach inv kind effect tags) s := by
  induction tags generalizing s with
  | nil => exact emits_pure ()
  | cons tag tags ih => exact (emits_sendTo h).bind fun _ _ _ => ih

theorem emits_timed {effect : Float → String → Effect} (h : ∀ seconds tag, P (effect seconds tag)) :
    LeadsAt (Emits P) (seconds inv >>= fun seconds => toSprite inv "tag" (effect seconds)) s :=
  (emits_duration _).bind fun x _ _ => emits_toSprite (h x)

end Act

namespace Command

theorem emits_startNone : LeadsAt (Emits P) (startScenes startNone inv) s := by
  refine emits_still ?_
  rw [run_startScenes, List.foldl_fixed' fun _ => rfl]
  split <;> rfl

theorem emits_stopScenes : LeadsAt (Emits P) (stopScenes inv) s := by
  refine moves_foldl (fun s name => .single (.of_journal ?_)) _ _
  unfold stopScene
  split
  · split <;> rfl
  · rfl

end Command

end Showrunner
