import Mathlib.Data.List.Basic
import Showrunner.Proofs.Pattern.Order
import Showrunner.Proofs.Pattern.Spelling
import Showrunner.Trigger.Kind

/-!
Which lines are trigger lines. Main statement: `classify?_opens`.
-/

namespace Showrunner

theorem Text.unwords_eq_empty_iff (ws : List String) : unwords ws = "" ↔ ws = [] ∨ ws = [""] := by
  cases ws with
  | nil => simp [unwords, joinWith]
  | cons w ws =>
    cases ws with
    | nil => simp [unwords, joinWith]
    | cons v ws => simp [unwords, joinWith]

/-- At most one element of a list has a value. Then it does not matter where the element stands. -/
theorem findSome?_perm {α β : Type} {f : α → Option β} {l l' : List α} (hp : l.Perm l')
    (hone : ∀ a ∈ l', ∀ b ∈ l', (f a).isSome → (f b).isSome → a = b) :
    l.findSome? f = l'.findSome? f := by
  cases h' : l'.findSome? f with
  | none =>
    rw [List.findSome?_eq_none_iff] at h' ⊢
    exact fun a ha => h' a (hp.mem_iff.mp ha)
  | some b =>
    obtain ⟨a, ha, hab⟩ := List.exists_of_findSome?_eq_some h'
    have hsome : (l.findSome? f).isSome :=
      List.findSome?_isSome_iff.mpr ⟨a, hp.mem_iff.mpr ha, by simp [hab]⟩
    obtain ⟨c, hc⟩ := Option.isSome_iff_exists.mp hsome
    obtain ⟨a', ha', hac⟩ := List.exists_of_findSome?_eq_some hc
    have haa : a' = a := hone a' (hp.mem_iff.mp ha') a ha (by simp [hac]) (by simp [hab])
    rw [hc, ← hac, haa, hab]

namespace Trigger

open Pattern (Progress Token)

def Kind.verb? : Kind → Option String
  | .start => some "begin"
  | .after => some "after"
  | .atTime => some "at"
  | .eachTime => some "each"
  | .every => some "every"
  | .whenTrue => some "when"
  | .whileTrue => some "while"
  | .onKey | .onClick => none

/-- The words that open a trigger line of a kind, in any ASCII case, with the words behind them. -/
inductive Opens : Kind → List String → List String → Prop
  | verb {kind : Kind} {v w : String} {rest : List String} (hk : kind.verb? = some v)
    (hw : Text.lowerAscii w = v) : Opens kind (w :: rest) rest
  | key {on key : String} {rest : List String} (ho : Text.lowerAscii on = "on")
    (hk : Text.lowerAscii key = "key" ∨ Text.lowerAscii key = "keypress")
    (hp : ∀ w ∈ rest.head?, Text.lowerAscii w ≠ "press") : Opens .onKey (on :: key :: rest) rest
  | keyPress {on key press : String} {rest : List String} (ho : Text.lowerAscii on = "on")
    (hk : Text.lowerAscii key = "key" ∨ Text.lowerAscii key = "keypress")
    (hp : Text.lowerAscii press = "press") : Opens .onKey (on :: key :: press :: rest) rest
  | click {on click : String} {rest : List String} (ho : Text.lowerAscii on = "on")
    (hc : Text.lowerAscii click = "click") : Opens .onClick (on :: click :: rest) rest
  | mouseClick {on mouse click : String} {rest : List String} (ho : Text.lowerAscii on = "on")
    (hm : Text.lowerAscii mouse = "mouse") (hc : Text.lowerAscii click = "click") :
    Opens .onClick (on :: mouse :: click :: rest) rest

/-- All the words behind, joined by single spaces. A lone empty word, which no line has, counts as
none. -/
def argument (rest : List String) : Option String :=
  if rest = [] ∨ rest = [""] then none else some (Text.unwords rest)

/-- The part of a grammar that tells the kind. -/
def Kind.head : Kind → List Token
  | .start => [.literal "begin"]
  | .after => [.literal "after"]
  | .onKey => [.literal "on", .choice "key" ["keypress"], .flag "press"]
  | .onClick => [.literal "on", .flag "mouse", .literal "click"]
  | .atTime => [.literal "at"]
  | .eachTime => [.literal "each"]
  | .every => [.literal "every"]
  | .whenTrue => [.literal "when"]
  | .whileTrue => [.literal "while"]

def Kind.spec (kind : Kind) : Pattern.Spec :=
  ⟨kind.head ++ [.divider, .restText "rest"], true, kind.grammar⟩

/-- What a grammar makes of a line. -/
def declared (words : List String) (g : Kind × Pattern.Spec) : Option Declaration :=
  (g.2.matchWords? words).map fun m => ⟨g.1, m.text? "rest"⟩

theorem read_pattern (kind : Kind) : Pattern.Spec.read kind.grammar =
    .ok ⟨kind.head ++ [.divider, .restText "rest"], false, kind.grammar⟩ := by
  rw [Pattern.Spec.read_eq]
  cases kind <;> rfl

theorem grammars_eq : grammars = Kind.all.map fun kind => (kind, kind.spec) := by
  rw [grammars, ← List.filterMap_eq_map]
  apply List.filterMap_congr
  intro kind _
  rw [read_pattern]
  rfl

def skip (word : String) : List String → List String
  | [] => []
  | w :: ws => if Text.lowerAscii w = word then ws else w :: ws

/-- What a token in the head of a grammar leaves of the words in front of it. -/
def leave : List String → Token → Option (List String)
  | w :: ws, .literal word => if Text.lowerAscii w = word then some ws else none
  | w :: ws, .choice name others =>
    if Text.lowerAscii w ∈ name :: others then some ws else none
  | ws, .flag word => some (skip word ws)
  | _, _ => none

def IsFixed : Token → Prop
  | .literal word | .flag word => Text.lowerAscii word = word
  | .choice name others => ∀ word ∈ name :: others, Text.lowerAscii word = word
  | _ => False

instance : DecidablePred IsFixed
  | .literal word | .flag word => inferInstanceAs (Decidable (Text.lowerAscii word = word))
  | .choice name others =>
    inferInstanceAs (Decidable (∀ word ∈ name :: others, Text.lowerAscii word = word))
  | .required _ | .optional _ | .flagBound _ | .restText _ | .restList _ | .number _ | .divider =>
    .isFalse id

section

variable {kind kind' : Kind} {words rest rest' : List String} {v w : String} {p : Progress}
  {t : Token}

theorem same_iff (hv : Text.lowerAscii v = v) :
    Text.sameIgnoringCase w v ↔ Text.lowerAscii w = v := by
  rw [Text.sameIgnoringCase, beq_iff_eq, hv]

theorem find?_same (hv : ∀ v ∈ words, Text.lowerAscii v = v) :
    (words.find? (Text.sameIgnoringCase w)).isSome ↔ Text.lowerAscii w ∈ words := by
  rw [List.find?_isSome]
  constructor
  · rintro ⟨v, hm, hw⟩
    rwa [(same_iff (hv v hm)).mp hw]
  · intro hm
    exact ⟨_, hm, (same_iff (hv _ hm)).mpr rfl⟩

theorem step_leave (hp : p.inHead) (ht : IsFixed t) :
    (p.step Text.sameIgnoringCase t).map (·.rest) = leave p.rest t ∧
      ∀ q ∈ p.step Text.sameIgnoringCase t, q.inHead := by
  obtain ⟨ws, inHead, armed, found⟩ := p
  subst hp
  cases t with
  | literal word =>
    cases ws with
    | nil => exact ⟨rfl, fun q hq => by cases hq⟩
    | cons w ws =>
      have hs := same_iff (w := w) ht
      by_cases hw : Text.lowerAscii w = word
      · simp [Progress.step, Progress.literal, Progress.disarm, Progress.advance, leave, hs, hw]
      · simp [Progress.step, Progress.literal, Progress.disarm, leave, hs, hw]
  | choice name others =>
    cases ws with
    | nil => exact ⟨rfl, fun q hq => by cases hq⟩
    | cons w ws =>
      have hs := find?_same (w := w) ht
      cases hf : (name :: others).find? (Text.sameIgnoringCase w) with
      | none =>
        have hw : Text.lowerAscii w ∉ name :: others := by simpa [hf] using hs
        simp only [Progress.step, Progress.choice, Progress.disarm, leave, hf, if_neg hw]
        exact ⟨rfl, by simp⟩
      | some c =>
        have hw : Text.lowerAscii w ∈ name :: others := by simpa [hf] using hs
        simp only [Progress.step, Progress.choice, Progress.disarm, leave, hf, if_pos hw]
        simp [Progress.bind, Progress.advance]
  | flag word =>
    cases ws with
    | nil => simp [Progress.step, Progress.flag, Progress.disarm, leave, skip]
    | cons w ws =>
      have hs := same_iff (w := w) ht
      by_cases hw : Text.lowerAscii w = word
      · simp [Progress.step, Progress.flag, Progress.disarm, Progress.advance, leave, skip, hs, hw]
      · simp [Progress.step, Progress.flag, Progress.disarm, leave, skip, hs, hw]
  | _ => exact ht.elim

theorem steps_leave {ts : List Token} (hp : p.inHead) (ht : ∀ t ∈ ts, IsFixed t) :
    (ts.foldlM (Progress.step Text.sameIgnoringCase) p).map (·.rest) = ts.foldlM leave p.rest := by
  induction ts generalizing p with
  | nil => rfl
  | cons t ts ih =>
    obtain ⟨ht, hts⟩ := List.forall_mem_cons.mp ht
    obtain ⟨hs, hq⟩ := step_leave hp ht
    rw [List.foldlM_cons, List.foldlM_cons, ← hs]
    cases hstep : p.step Text.sameIgnoringCase t with
    | none => rfl
    | some q => exact ih (hq q hstep) hts

theorem isFixed_head (kind : Kind) : ∀ t ∈ kind.head, IsFixed t := by
  cases kind <;> decide

theorem found_rest (same : String → String → Bool) (p : Progress) :
    (([.divider, .restText "rest"] : List Token).foldlM (Progress.step same) p).map
      (·.found.text? "rest") = some (argument p.rest) := by
  have ht := Progress.text?_restText { p with inHead := false, armed := false } "rest"
  simp only [Text.unwords_eq_empty_iff] at ht
  exact congrArg some ht

theorem same_spec (kind : Kind) : kind.spec.same = Text.sameIgnoringCase := by
  funext a b
  simp [Pattern.Spec.same, Kind.spec]

/-- A grammar makes a trigger line of the words that its head leaves. -/
theorem declared_eq (kind : Kind) (words : List String) :
    declared words (kind, kind.spec) =
      (kind.head.foldlM leave words).map fun rest => ⟨kind, argument rest⟩ := by
  cases words with
  | nil => cases kind <;> rfl
  | cons w ws =>
    have hsteps := steps_leave (p := .start (w :: ws)) rfl (isFixed_head kind)
    have hrest : (Progress.start (w :: ws)).rest = w :: ws := rfl
    rw [hrest] at hsteps
    rw [← hsteps, Option.map_map]
    have hdeclared : declared (w :: ws) (kind, kind.spec) =
        ((kind.spec.tokens.foldlM (Progress.step Text.sameIgnoringCase) (.start (w :: ws))).map
          (·.found.text? "rest")).map (Declaration.mk kind) := by
      simp [declared, Pattern.Spec.matchWords?_eq, same_spec, Function.comp_def]
    rw [hdeclared, Kind.spec, List.foldlM_append]
    cases kind.head.foldlM (Progress.step Text.sameIgnoringCase) (.start (w :: ws)) with
    | none => rfl
    | some p => exact congrArg (Option.map _) (found_rest Text.sameIgnoringCase p)

theorem head_of_verb (hk : kind.verb? = some v) : kind.head = [.literal v] := by
  cases kind <;> cases hk <;> rfl

theorem leave_literal : leave words (.literal v) = some rest ↔
    ∃ w, words = w :: rest ∧ Text.lowerAscii w = v := by
  cases words with
  | nil => simp [leave]
  | cons w ws =>
    by_cases hw : Text.lowerAscii w = v
    · simp [leave, hw]
    · simp [leave, hw]

theorem leave_choice {others : List String} : leave words (.choice v others) = some rest ↔
    ∃ w, words = w :: rest ∧ Text.lowerAscii w ∈ v :: others := by
  cases words with
  | nil => simp [leave]
  | cons w ws =>
    by_cases hw : Text.lowerAscii w ∈ v :: others
    · simp [leave, hw, -List.mem_cons]
    · simp [leave, hw, -List.mem_cons]

theorem skip_cases (word : String) (words : List String) :
    (∃ w, words = w :: skip word words ∧ Text.lowerAscii w = word) ∨
      (skip word words = words ∧ ∀ w ∈ words.head?, Text.lowerAscii w ≠ word) := by
  cases words with
  | nil => exact .inr ⟨rfl, nofun⟩
  | cons w ws =>
    by_cases hw : Text.lowerAscii w = word
    · exact .inl ⟨w, by simp [skip, hw], hw⟩
    · exact .inr ⟨by simp [skip, hw], by simpa using hw⟩

theorem leaves_of_opens (h : Opens kind words rest) : kind.head.foldlM leave words = some rest := by
  cases h with
  | verb hk hw => simp [head_of_verb hk, leave, hw]
  | key ho hk hp =>
    cases rest with
    | nil => simp [Kind.head, leave, skip, ho, hk]
    | cons w ws => simp [Kind.head, leave, skip, ho, hk, hp w rfl]
  | keyPress ho hk hp => simp [Kind.head, leave, skip, ho, hk, hp]
  | click ho hc => simp [Kind.head, leave, skip, ho, hc]
  | mouseClick ho hm hc => simp [Kind.head, leave, skip, ho, hm, hc]

theorem opens_onKey (h : Kind.onKey.head.foldlM leave words = some rest) :
    Opens .onKey words rest := by
  obtain ⟨afterOn, hon, hbehind⟩ := Option.bind_eq_some_iff.mp h
  obtain ⟨afterKey, hkey, hlast⟩ := Option.bind_eq_some_iff.mp hbehind
  obtain ⟨on, rfl, ho⟩ := leave_literal.mp hon
  obtain ⟨key, rfl, hk⟩ := leave_choice.mp hkey
  have hk : Text.lowerAscii key = "key" ∨ Text.lowerAscii key = "keypress" := by simpa using hk
  have hskip : skip "press" afterKey = rest := by simpa [leave] using hlast
  obtain ⟨w, hw, hp⟩ | ⟨hw, hp⟩ := skip_cases "press" afterKey
  · rw [hw, hskip]
    exact .keyPress ho hk hp
  · rw [← hskip, hw]
    exact .key ho hk hp

theorem opens_onClick (h : Kind.onClick.head.foldlM leave words = some rest) :
    Opens .onClick words rest := by
  obtain ⟨afterOn, hon, hbehind⟩ := Option.bind_eq_some_iff.mp h
  obtain ⟨afterMouse, hmouse, hlast⟩ := Option.bind_eq_some_iff.mp hbehind
  obtain ⟨on, rfl, ho⟩ := leave_literal.mp hon
  have hskip : skip "mouse" afterOn = afterMouse := by simpa [leave] using hmouse
  have hclick : leave afterMouse (.literal "click") = some rest := by simpa using hlast
  obtain ⟨click, hw, hc⟩ := leave_literal.mp hclick
  obtain ⟨mouse, hm, hmouse⟩ | ⟨hm, -⟩ := skip_cases "mouse" afterOn
  · rw [hm, hskip, hw]
    exact .mouseClick ho hmouse hc
  · rw [← hm, hskip, hw]
    exact .click ho hc

theorem opens_of_verb (hk : kind.verb? = some v) (h : kind.head.foldlM leave words = some rest) :
    Opens kind words rest := by
  have hleave : leave words (.literal v) = some rest := by
    rw [head_of_verb hk] at h
    simpa using h
  obtain ⟨w, rfl, hw⟩ := leave_literal.mp hleave
  exact .verb hk hw

theorem leaves_iff (kind : Kind) (words rest : List String) :
    kind.head.foldlM leave words = some rest ↔ Opens kind words rest := by
  refine ⟨fun h => ?_, leaves_of_opens⟩
  cases kind with
  | onKey => exact opens_onKey h
  | onClick => exact opens_onClick h
  | _ => exact opens_of_verb rfl h

def sign? : List String → Option Kind
  | "begin" :: _ => some .start
  | "after" :: _ => some .after
  | "at" :: _ => some .atTime
  | "each" :: _ => some .eachTime
  | "every" :: _ => some .every
  | "when" :: _ => some .whenTrue
  | "while" :: _ => some .whileTrue
  | "on" :: "key" :: _ => some .onKey
  | "on" :: "keypress" :: _ => some .onKey
  | "on" :: "mouse" :: _ => some .onClick
  | "on" :: "click" :: _ => some .onClick
  | _ => none

theorem Opens.sign?_eq (h : Opens kind words rest) :
    sign? (words.map Text.lowerAscii) = some kind := by
  cases h with
  | verb hk hw =>
    rw [List.map_cons, hw]
    cases kind <;> cases hk <;> rfl
  | key ho hk hp =>
    rw [List.map_cons, List.map_cons, ho]
    obtain hk | hk := hk <;> rw [hk] <;> rfl
  | keyPress ho hk hp =>
    rw [List.map_cons, List.map_cons, ho]
    obtain hk | hk := hk <;> rw [hk] <;> rfl
  | click ho hc =>
    rw [List.map_cons, List.map_cons, ho, hc]
    rfl
  | mouseClick ho hm hc =>
    rw [List.map_cons, List.map_cons, ho, hm]
    rfl

theorem Opens.kind_eq (h : Opens kind words rest) (h' : Opens kind' words rest') : kind = kind' :=
  Option.some.inj (h.sign?_eq.symm.trans h'.sign?_eq)

/-- A grammar matches just the lines that the words of its kind open. -/
theorem declared_iff (kind : Kind) (words : List String) (d : Declaration) :
    declared words (kind, kind.spec) = some d ↔
      ∃ rest, Opens kind words rest ∧ ⟨kind, argument rest⟩ = d := by
  rw [declared_eq, Option.map_eq_some_iff]
  simp only [leaves_iff]

theorem mem_grammars (g : Kind × Pattern.Spec) : g ∈ grammars ↔ g = (g.1, g.1.spec) := by
  have hall (kind : Kind) : kind ∈ Kind.all := by cases kind <;> decide
  rw [grammars_eq, List.mem_map]
  constructor
  · rintro ⟨kind, -, rfl⟩
    rfl
  · intro hg
    exact ⟨g.1, hall g.1, hg.symm⟩

theorem eq_of_declared {g g' : Kind × Pattern.Spec} (hg : g ∈ grammars) (hg' : g' ∈ grammars)
    (h : (declared words g).isSome) (h' : (declared words g').isSome) : g = g' := by
  rw [mem_grammars] at hg hg'
  rw [hg] at h
  rw [hg'] at h'
  obtain ⟨d, hd⟩ := Option.isSome_iff_exists.mp h
  obtain ⟨d', hd'⟩ := Option.isSome_iff_exists.mp h'
  obtain ⟨rest, ho, -⟩ := (declared_iff g.1 words d).mp hd
  obtain ⟨rest', ho', -⟩ := (declared_iff g'.1 words d').mp hd'
  rw [hg, hg', ho.kind_eq ho']

theorem classify?_iff (words : List String) (d : Declaration) : classify? words = some d ↔
    ∃ rest, Opens d.kind words rest ∧ d.argument = argument rest := by
  have hc : classify? words = grammars.findSome? (declared words) := rfl
  rw [hc]
  constructor
  · intro h
    obtain ⟨g, hg, hd⟩ := List.exists_of_findSome?_eq_some h
    rw [(mem_grammars g).mp hg, declared_iff] at hd
    obtain ⟨rest, ho, rfl⟩ := hd
    exact ⟨rest, ho, rfl⟩
  · rintro ⟨rest, ho, ha⟩
    have hd : declared words (d.kind, d.kind.spec) = some d := by
      rw [declared_iff]
      exact ⟨rest, ho, by rw [← ha]⟩
    have hg : (d.kind, d.kind.spec) ∈ grammars := (mem_grammars _).mpr rfl
    have hmatch : (declared words (d.kind, d.kind.spec)).isSome := by simp [hd]
    obtain ⟨d', hd'⟩ :=
      Option.isSome_iff_exists.mp (List.findSome?_isSome_iff.mpr ⟨_, hg, hmatch⟩)
    obtain ⟨g, hg', hgd⟩ := List.exists_of_findSome?_eq_some hd'
    have hmatch' : (declared words g).isSome := by simp [hgd]
    rw [hd', ← hgd, eq_of_declared hg' hg hmatch' hmatch, hd]

end

/-- Each kind has its grammar, and no line is matched by two of them, so that they may be tried in
any order. A line is a trigger line if it begins with the words of a kind, in any ASCII case, and
its argument is all the words behind them. -/
theorem classify?_opens (words : List String) :
    grammars.map (·.1) = Kind.all ∧
    (∀ g ∈ grammars, ∀ g' ∈ grammars,
      (g.2.matchWords? words).isSome → (g'.2.matchWords? words).isSome → g = g') ∧
    (∀ tried : List (Kind × Pattern.Spec), tried.Perm grammars →
      tried.findSome? (declared words) = classify? words) ∧
    ∀ d, classify? words = some d ↔
      ∃ rest, Opens d.kind words rest ∧ d.argument = argument rest := by
  have hdeclared (g : Kind × Pattern.Spec) :
      (declared words g).isSome = (g.2.matchWords? words).isSome := by
    rw [declared, Option.isSome_map]
  refine ⟨?_, fun g hg g' hg' h h' => ?_, fun tried ht => ?_, classify?_iff words⟩
  · rw [grammars_eq, List.map_map]
    exact List.map_id _
  · rw [← hdeclared] at h h'
    exact eq_of_declared hg hg' h h'
  · apply findSome?_perm ht
    intro g hg g' hg' h h'
    exact eq_of_declared hg hg' h h'

theorem classify?_opens_keyPress :
    classify? ["On", "KEY", "press", "Space", "bar"] = some ⟨.onKey, some "Space bar"⟩ ∧
    grammars.reverse.findSome? (declared ["On", "KEY", "press", "Space", "bar"]) =
      some ⟨.onKey, some "Space bar"⟩ ∧
    ∀ g ∈ grammars, (g.2.matchWords? ["On", "KEY", "press", "Space", "bar"]).isSome →
      g = (.onKey, Kind.onKey.spec) := by
  obtain ⟨-, hone, hperm, hiff⟩ := classify?_opens ["On", "KEY", "press", "Space", "bar"]
  have hclassify := (hiff ⟨.onKey, some "Space bar"⟩).mpr
    ⟨["Space", "bar"], .keyPress (by decide) (by decide) (by decide), by decide⟩
  refine ⟨hclassify, (hperm _ (List.reverse_perm _)).trans hclassify, fun g hg hm => ?_⟩
  exact hone g hg _ ((mem_grammars _).mpr rfl) hm (by decide)

end Trigger
end Showrunner
