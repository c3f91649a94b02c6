import Showrunner.Proofs.Command.Builtin
import Showrunner.Proofs.Pattern.Consumption
import Showrunner.Proofs.Show.Performance

/-!
Lines that assign a variable. Main statement: `dispatch_assign`.
-/

namespace Showrunner

/-- The words that may stand between a name and its value. -/
def connectives : List String := ["be", "as", "="]

namespace Pattern.Progress

/-- Skips the words between a name and its value. -/
def skipConnective (p : Progress) : Progress :=
  ((p.disarm.flag (· == ·) "be").disarm.flag (· == ·) "as").disarm.flag (· == ·) "="

theorem flag_found (same : String → String → Bool) (p : Progress) (word : String) :
    (p.disarm.flag same word).found.bindings = p.found.bindings ∧
      (p.disarm.flag same word).found.mismatches = p.found.mismatches := by
  unfold flag
  split
  · exact ⟨rfl, rfl⟩
  · split
    · exact ⟨advance_bindings _, by unfold advance; split <;> rfl⟩
    · exact ⟨rfl, rfl⟩

theorem skipConnective_found (p : Progress) :
    p.skipConnective.found.bindings = p.found.bindings ∧
      p.skipConnective.found.mismatches = p.found.mismatches := by
  simp only [skipConnective, flag_found, and_self]

theorem skipConnective_rest {p : Progress} {connective : Option String} {value : List String}
    (hc : ∀ c ∈ connective, c ∈ connectives) (hv : ∀ w ∈ value.head?, w ∉ connectives)
    (hr : p.rest = connective.toList ++ value) : p.skipConnective.rest = value := by
  have hc : connective ∈ [none, some "be", some "as", some "="] := by
    cases connective with
    | none => exact List.mem_cons_self
    | some c => simpa [connectives] using hc
  simp only [List.mem_cons, List.not_mem_nil, or_false] at hc
  cases value with
  | nil =>
    rcases hc with rfl | rfl | rfl | rfl <;> simp [skipConnective, flag, disarm, advance, hr]
  | cons v vs =>
    have hne : v ≠ "be" ∧ v ≠ "as" ∧ v ≠ "=" := by simpa [connectives] using hv
    rcases hc with rfl | rfl | rfl | rfl <;> simp [skipConnective, flag, disarm, advance, hr, hne]

def afterName (verb : String) (ws : List String) : Progress :=
  let head := (start (verb :: ws)).advance.bind "make" (.text verb)
  ({ head with inHead := false } : Progress).disarm.require "name"

end Pattern.Progress

/-- How the pattern of `make` matches that word, or another for it, with words behind it. -/
def assignMatch (verb : String) (ws : List String) : Pattern.Match :=
  ((Pattern.Progress.afterName verb ws).skipConnective.disarm.restText "rest").found

theorem find?_assign {verb : String} (hv : verb ∈ ["make", "let"]) (ws : List String) :
    ∃ c, Registry.builtin.find? (verb :: ws) = some (c, assignMatch verb ws) ∧
      c.handler = .assign := by
  simp only [List.mem_cons, List.not_mem_nil, or_false] at hv
  rcases hv with rfl | rfl <;> exact find?_of_table rfl

/-- The pattern of the command that places an image at an edge asks for nothing but its own word
in front, so that it takes every line that begins with `put`. -/
theorem find?_put (ws : List String) :
    ∃ c found, Registry.builtin.find? ("put" :: ws) = some (c, found) ∧ c.handler = .put := by
  let read := fun e : String × Handler × List Pattern.Token =>
    (Pattern.Spec.matchWords? ⟨e.2.2, false, ""⟩ ("put" :: ws)).map fun m => (e.1, e.2.1, m)
  have hbefore : (builtinTokens.take 7).findSome? read = none := rfl
  obtain ⟨e, after, hsplit, hput, hmatch⟩ : ∃ e after,
      builtinTokens = builtinTokens.take 7 ++ e :: after ∧ e.2.1 = .put ∧
        (Pattern.Spec.matchWords? ⟨e.2.2, false, ""⟩ ("put" :: ws)).isSome := by
    refine ⟨builtinTokens[7], builtinTokens.drop 8, rfl, rfl, ?_⟩
    rw [Pattern.Spec.isSome_matchWords?, Pattern.Spec.valid_matchLine_iff]
    exact ⟨List.cons_ne_nil _ _, rfl⟩
  obtain ⟨found, hfound⟩ := Option.isSome_iff_exists.mp hmatch
  have hread : read e = some (e.1, e.2.1, found) := congrArg (Option.map _) hfound
  have htable : builtinTokens.findSome? read = some (e.1, e.2.1, found) := by
    rw [hsplit, List.findSome?_append, hbefore, Option.none_or, List.findSome?_cons, hread]
  obtain ⟨c, hf, hh⟩ := find?_of_table htable
  exact ⟨c, found, hf, hh.trans hput⟩

namespace Show

open Variables

structure Assigns (name value scene : String) (s t : Show) : Prop where
  value : t.vars.get? name scene = some value
  others : ∀ key, key ≠ qualify name scene → t.vars.values.get? key = s.vars.values.get? key
  rest : t = { s with vars := { s.vars with values := t.vars.values } }

variable {s : Show} {line verb name : String} {connective : Option String}
  {value : List String}

theorem assigns_setVar (s : Show) (name value scene : String) :
    Assigns name value scene s (s.setVar name value scene) where
  value := by
    have hi := Table.get?_insert s.vars.values (qualify name scene) (qualify name scene) value
    rw [if_pos rfl] at hi
    unfold setVar Variables.set Variables.get?
    dsimp only
    split
    · next top ht =>
      have hq : qualify name scene = .ofList top := by simp [qualify, ht]
      rw [← hq, hi]
    · rw [hi]
      rfl
  others key hk := (Table.get?_insert ..).trans (if_neg hk)
  rest := rfl

/-- What the words behind the verb come to: the name, and the value behind the connective. -/
theorem assignMatch_eq (verb name : String) (hc : ∀ c ∈ connective, c ∈ connectives)
    (hv : ∀ w ∈ value.head?, w ∉ connectives) :
    (assignMatch verb (name :: (connective.toList ++ value))).mismatches = [] ∧
      (assignMatch verb (name :: (connective.toList ++ value))).text? "name" = some name ∧
      ((assignMatch verb (name :: (connective.toList ++ value))).text? "rest").getD "" =
        Text.unwords value := by
  let p := Pattern.Progress.afterName verb (name :: (connective.toList ++ value))
  obtain ⟨hb, hm⟩ := p.skipConnective_found
  have hrest : p.skipConnective.rest = value := Pattern.Progress.skipConnective_rest hc hv rfl
  have hname : p.found.bindings.get? "name" = some (.text name) := Table.get?_insert ..
  have hkept : (assignMatch verb (name :: (connective.toList ++ value))).bindings.get? "name" =
      p.skipConnective.found.bindings.get? "name" :=
    Pattern.Progress.bind_get?_of_ne p.skipConnective.disarm _ (by decide)
  refine ⟨hm, ?_, ?_⟩
  · rw [Pattern.Match.text?, hkept, hb, hname]
  · exact (p.skipConnective.disarm.getD_restText "rest").trans (congrArg Text.unwords hrest)

theorem dispatch_make (start : Show → String → Show) (hb : s.registry = .builtin)
    (hw : Text.words line = verb :: name :: (connective.toList ++ value))
    (hm : verb ∈ ["make", "let"]) (hc : ∀ c ∈ connective, c ∈ connectives)
    (hv : ∀ w ∈ value.head?, w ∉ connectives) (scene : String) :
    dispatch start s line scene = (false, s.setVar name (Text.unwords value) scene) := by
  obtain ⟨c, hf, hh⟩ := find?_assign hm (name :: (connective.toList ++ value))
  obtain ⟨hmis, hname, hrest⟩ := assignMatch_eq verb name hc hv
  generalize assignMatch verb (name :: (connective.toList ++ value)) = found
    at hf hmis hname hrest
  have hr : s.reportAll [] = s := by simp [reportAll]
  have hrequired : Invocation.required ⟨scene, found⟩ "name" "a variable name" = .ok name := by
    rw [Invocation.required, Invocation.text?, hname]
  have hrun : (Command.assign ⟨scene, found⟩).run.run s =
      (.ok .again, s.setVar name (Text.unwords value) scene) := by
    unfold Command.assign
    rw [hrequired, ← hrest]
    rfl
  unfold dispatch
  rw [hw, hb]
  simp only [hf, hh, hmis, List.map_nil, hr, List.isEmpty_cons, Bool.false_eq_true, if_false,
    Handler.run, hrun]
  rfl

theorem vars_dispatch_put (start : Show → String → Show) (hb : s.registry = .builtin)
    {ws : List String} (hw : Text.words line = "put" :: ws) (scene : String) :
    (dispatch start s line scene).2.vars = s.vars := by
  obtain ⟨c, found, hf, hh⟩ := find?_put ws
  rcases dispatch_cases start s line scene with h | ⟨c', found', hf', h⟩
  · exact h.vars
  · rw [hb, hw, hf] at hf'
    cases hf'
    have hm : Act.LeadsAt (Touch (Invocation.scene ⟨scene, found⟩))
        (c.handler.run start ⟨scene, found⟩) (s.received scene found) :=
      c.handler.leads_touches start (by rw [hh]; decide) (by rw [hh]; decide) (by rw [hh]; decide)
    rw [h.vars, Touch.vars_eq hm, (AfterReading.received s scene found).vars]

/-- A line of `make` or `let` gives the variable the words behind the connective, if one of these is
there. A line of `put` is for images and assigns nothing. -/
theorem dispatch_assign (start : Show → String → Show) (hb : s.registry = .builtin)
    (hw : Text.words line = verb :: name :: (connective.toList ++ value))
    (hc : ∀ c ∈ connective, c ∈ connectives) (hv : ∀ w ∈ value.head?, w ∉ connectives)
    (scene : String) :
    (verb ∈ ["make", "let"] →
      Assigns name (Text.unwords value) scene s (dispatch start s line scene).2) ∧
    (verb = "put" → (dispatch start s line scene).2.vars = s.vars) := by
  constructor
  · intro hm
    rw [dispatch_make start hb hw hm hc hv scene]
    exact assigns_setVar s name (Text.unwords value) scene
  · rintro rfl
    exact vars_dispatch_put start hb hw scene

def unscripted : Show := Show.start (640, 480) 30 Expression.evaluate .still .empty

theorem dispatch_assign_total :
    (unscripted.command "let total  be as.is = well" "shop").2.vars.get? "total" "shop" =
      some "as.is = well" ∧
    (unscripted.command "put total 1" "shop").2.vars = unscripted.vars := by
  have hlet : Text.words "let total  be as.is = well" =
      "let" :: "total" :: ((some "be").toList ++ ["as.is", "=", "well"]) := by decide +kernel
  have hput : Text.words "put total 1" =
      "put" :: "total" :: ((none : Option String).toList ++ ["1"]) := by decide +kernel
  have hvalue : Text.unwords ["as.is", "=", "well"] = "as.is = well" := by decide +kernel
  have hassigns := (dispatch_assign (fun s name => (s.startScene name).2) (s := unscripted) rfl hlet
    (by decide) (by decide) "shop").1 (by decide)
  have hkeeps := (dispatch_assign (fun s name => (s.startScene name).2) (s := unscripted) rfl hput
    nofun (by decide) "shop").2 rfl
  rw [hvalue] at hassigns
  constructor
  · rw [command]
    exact hassigns.value
  · rw [command]
    exact hkeeps

/-- The pattern of `make` has `put` among its words, and yet such a line leaves the variable
unset. -/
theorem dispatch_assign_put :
    Text.words "put x 1" = ["put", "x", "1"] ∧
      (unscripted.command "put x 1" topLevel).2.vars.get? "x" topLevel = none := by
  have hw : Text.words "put x 1" = ["put", "x", "1"] := by decide +kernel
  refine ⟨hw, ?_⟩
  rw [command, vars_dispatch_put _ rfl hw]
  decide +kernel

end Show

end Showrunner
