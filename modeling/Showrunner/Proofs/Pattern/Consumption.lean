import Showrunner.Proofs.Pattern.Order
import Showrunner.Proofs.Pattern.Spelling

/-!
How the words of a line are shared out among the tokens of a pattern. No word is lost, none is taken
twice, and whether the line matches is settled before the first divider.
-/

namespace Showrunner.Pattern

/-- What a token binds its name to when it takes the words of `share` off the front of `rest`. -/
def Token.value (same : String → String → Bool) (share rest : List String) : Token → Binding
  | .restList _ => .list rest
  | .restText _ => if Text.unwords rest = "" then .absent else .text (Text.unwords rest)
  | .choice name others =>
    match share.head?.bind fun w => (name :: others).find? (same w) with
    | some c => .text c
    | none => .absent
  | _ =>
    match share.head? with
    | some w => .text w
    | none => .absent

def Token.Bound (same : String → String → Bool) (share rest : List String)
    (bindings : Table Binding) (t : Token) : Prop :=
  match t.bound? with
  | none => True
  | some name => bindings.get? name = some (t.value same share rest)

def Token.isStill (t : Token) : Bool := t.isRest || t == .divider

namespace Progress

variable {same : String → String → Bool} {p q r : Progress} {t : Token}

/-- What a token does with the words in front of it: it takes one of them or none, counts it among
the head words before the divider, and binds its name by what it took. -/
structure Uses (same : String → String → Bool) (t : Token) (share : List String)
    (p q : Progress) : Prop where
  rest : p.rest = share ++ q.rest
  one : share.length ≤ 1
  headWords : q.found.headWords = p.found.headWords ++ if p.inHead then share else []
  inHead : q.inHead = (t != .divider && p.inHead)
  bound : t.Bound same share p.rest q.found.bindings
  still : t.isStill → share = []

/-- Behind the divider no token leads back into the head. -/
theorem Uses.inHead_eq_false {share : List String} (h : Uses same t share p q)
    (hp : p.inHead = false) : q.inHead = false := by
  rw [h.inHead, hp, Bool.and_false]

theorem Uses.get?_eq {share : List String} {name : String} (h : Uses same t share p q)
    (ht : t.bound? = some name) :
    q.found.bindings.get? name = some (t.value same share p.rest) := by
  have hb := h.bound
  rwa [Token.Bound, ht] at hb

theorem uses_none (hr : q.rest = p.rest) (hh : q.found.headWords = p.found.headWords)
    (hi : q.inHead = (t != .divider && p.inHead))
    (hb : t.Bound same [] p.rest q.found.bindings) : Uses same t [] p q where
  rest := hr.symm
  one := Nat.zero_le 1
  headWords := by simp [hh]
  inHead := hi
  bound := hb
  still _ := rfl

theorem uses_next {w : String} (ht : t.isStill = false) (hr : p.rest = w :: q.rest)
    (hh : q.found.headWords =
      if p.inHead then p.found.headWords ++ [w] else p.found.headWords)
    (hi : q.inHead = (t != .divider && p.inHead))
    (hb : t.Bound same [w] p.rest q.found.bindings) : Uses same t [w] p q where
  rest := hr
  one := Nat.le_refl 1
  headWords := by
    rw [hh]
    split <;> simp
  inHead := hi
  bound := hb
  still h := by
    rw [ht] at h
    cases h

theorem get?_bind (p : Progress) (name : String) (b : Binding) :
    (p.bind name b).found.bindings.get? name = some b := by
  simp [bind, Table.get?_insert]

theorem exists_uses (hs : p.step same t = some q) : ∃ share, Uses same t share p q := by
  obtain ⟨rest, inHead, armed, headWords, bindings, mismatches⟩ := p
  cases t with
  | divider =>
    cases hs
    exact ⟨_, uses_none rfl rfl rfl trivial⟩
  | required name | optional name =>
    cases hs
    cases rest with
    | nil => exact ⟨_, uses_none rfl rfl rfl (get?_bind ..)⟩
    | cons w ws => exact ⟨_, uses_next rfl rfl rfl rfl (get?_bind ..)⟩
  | literal word =>
    cases rest with
    | nil =>
      cases inHead <;> cases hs
      exact ⟨_, uses_none rfl rfl rfl trivial⟩
    | cons w ws =>
      simp only [step, literal, disarm] at hs
      split at hs
      · cases hs
        exact ⟨_, uses_next rfl rfl rfl rfl trivial⟩
      · cases inHead <;> cases hs
        exact ⟨_, uses_next rfl rfl rfl rfl trivial⟩
  | choice name others =>
    cases rest with
    | nil =>
      cases inHead <;> cases hs
      exact ⟨_, uses_none rfl rfl rfl (get?_bind ..)⟩
    | cons w ws =>
      simp only [step, choice, disarm] at hs
      split at hs
      · next c hc =>
        cases hs
        refine ⟨_, uses_next rfl rfl rfl rfl ?_⟩
        simp [Token.Bound, Token.bound?, get?_bind, Token.value, hc]
      · next hc =>
        cases inHead <;> cases hs
        refine ⟨_, uses_next rfl rfl rfl rfl ?_⟩
        simp [Token.Bound, Token.bound?, get?_bind, Token.value, hc]
  | flag word =>
    cases hs
    simp only [flag, disarm]
    cases rest with
    | nil => exact ⟨_, uses_none rfl rfl rfl trivial⟩
    | cons w ws =>
      dsimp only
      split
      · exact ⟨_, uses_next rfl rfl rfl rfl trivial⟩
      · exact ⟨_, uses_none rfl rfl rfl trivial⟩
  | flagBound name =>
    cases hs
    cases armed with
    | false => exact ⟨_, uses_none rfl rfl rfl (get?_bind ..)⟩
    | true =>
      cases rest with
      | nil => exact ⟨_, uses_none rfl rfl rfl (get?_bind ..)⟩
      | cons w ws => exact ⟨_, uses_next rfl rfl rfl rfl (get?_bind ..)⟩
  | restText name =>
    cases hs
    refine ⟨_, uses_none rfl rfl rfl ?_⟩
    simp [Token.Bound, Token.bound?, restText, get?_bind, Token.value, disarm]
  | restList name =>
    cases hs
    exact ⟨_, uses_none rfl rfl rfl (get?_bind ..)⟩
  | number name =>
    cases hs
    simp only [number, disarm]
    cases rest with
    | nil => exact ⟨_, uses_none rfl rfl rfl (get?_bind ..)⟩
    | cons w ws =>
      dsimp only
      split
      · exact ⟨_, uses_next rfl rfl rfl rfl (get?_bind ..)⟩
      · exact ⟨_, uses_none rfl rfl rfl (get?_bind ..)⟩

/-- A reading of words by tokens, with the words that each token takes. -/
inductive Takes (same : String → String → Bool) :
    Progress → List Token → List (List String) → Progress → Prop
  | nil {p : Progress} : Takes same p [] [] p
  | cons {p q r : Progress} {t : Token} {ts : List Token} {share : List String}
    {shares : List (List String)} (hs : p.step same t = some q) (hw : p.rest = share ++ q.rest)
    (h : Takes same q ts shares r) : Takes same p (t :: ts) (share :: shares) r

theorem uses_of_step {share : List String} (hs : p.step same t = some q)
    (hw : p.rest = share ++ q.rest) : Uses same t share p q := by
  obtain ⟨share', h⟩ := exists_uses hs
  have he : share = share' := List.append_cancel_right (hw.symm.trans h.rest)
  rwa [he]

section

variable {ts us : List Token} {shares : List (List String)}

theorem exists_takes (h : ts.foldlM (step same) p = some r) :
    ∃ shares, Takes same p ts shares r := by
  induction ts generalizing p with
  | nil =>
    cases h
    exact ⟨[], .nil⟩
  | cons t ts ih =>
    obtain ⟨q, hs, hr⟩ := Option.bind_eq_some_iff.mp h
    obtain ⟨share, hu⟩ := exists_uses hs
    obtain ⟨shares, ht⟩ := ih hr
    exact ⟨share :: shares, .cons hs hu.rest ht⟩

theorem Takes.rest_eq (h : Takes same p ts shares r) : p.rest = shares.flatten ++ r.rest := by
  induction h with
  | nil => rfl
  | cons hs hw h ih => rw [hw, ih, List.flatten_cons, List.append_assoc]

theorem Takes.drop_eq (h : Takes same p ts shares r) :
    p.rest.drop shares.flatten.length = r.rest := by
  rw [h.rest_eq, List.drop_left]

theorem flatten_eq_append (shares : List (List String)) (n : Nat) :
    shares.flatten = (shares.take n).flatten ++ (shares.drop n).flatten := by
  rw [← List.flatten_append, List.take_append_drop]

theorem Takes.take_eq (h : Takes same p ts shares r) (n : Nat) :
    p.rest.take (shares.take n).flatten.length = (shares.take n).flatten := by
  rw [h.rest_eq, flatten_eq_append shares n, List.append_assoc, List.take_left]

theorem Takes.length_le_one (h : Takes same p ts shares r) :
    ∀ share ∈ shares, share.length ≤ 1 := by
  induction h with
  | nil => nofun
  | cons hs hw h ih => exact List.forall_mem_cons.mpr ⟨(uses_of_step hs hw).one, ih⟩

theorem Takes.length_eq (h : Takes same p ts shares r) : shares.length = ts.length := by
  induction h with
  | nil => rfl
  | cons hs hw h ih => simp [ih]

theorem Takes.headWords_tail (h : Takes same p ts shares r) (hp : p.inHead = false) :
    r.found.headWords = p.found.headWords := by
  induction h with
  | nil => rfl
  | @cons p q r t ts share shares hs hw h ih =>
    have hu := uses_of_step hs hw
    rw [ih (hu.inHead_eq_false hp), hu.headWords, hp]
    simp

theorem Takes.headWords_eq (h : Takes same p ts shares r) (hp : p.inHead) :
    r.found.headWords = p.found.headWords ++
      (shares.take (ts.takeWhile (· != .divider)).length).flatten := by
  induction h with
  | nil => simp
  | @cons p q r t ts share shares hs hw h ih =>
    have hu := uses_of_step hs hw
    by_cases ht : t = .divider
    · subst ht
      have hq : q.inHead = false := hu.inHead
      have hshare : share = [] := hu.still rfl
      rw [h.headWords_tail hq, hu.headWords, hshare]
      simp
    · have hq : q.inHead := by simp [hu.inHead, ht, hp]
      have htw : (t :: ts).takeWhile (· != .divider) = t :: ts.takeWhile (· != .divider) :=
        List.takeWhile_cons_of_pos (by simpa using ht)
      rw [ih hq, hu.headWords, hp, htw]
      simp

theorem Takes.flatten_eq_nil (h : Takes same p ts shares r)
    (ht : ∀ t ∈ ts, t.isStill) : shares.flatten = [] := by
  induction h with
  | nil => rfl
  | cons hs hw h ih =>
    obtain ⟨ht, hts⟩ := List.forall_mem_cons.mp ht
    rw [List.flatten_cons, (uses_of_step hs hw).still ht, ih hts]
    rfl

theorem Takes.get?_of_ne {name : String} (h : Takes same p ts shares r)
    (hn : ∀ t ∈ ts, t.bound? ≠ some name) :
    r.found.bindings.get? name = p.found.bindings.get? name := by
  induction h with
  | nil => rfl
  | cons hs hw h ih =>
    obtain ⟨ht, hts⟩ := List.forall_mem_cons.mp hn
    rw [ih hts, step_get?_of_ne hs ht]

theorem Takes.split (h : Takes same p (ts ++ us) shares r) :
    ∃ before after q, shares = before ++ after ∧ Takes same p ts before q ∧
      Takes same q us after r := by
  induction ts generalizing p shares with
  | nil => exact ⟨[], shares, p, rfl, .nil, h⟩
  | cons t ts ih =>
    obtain _ | ⟨hs, hw, h⟩ := h
    obtain ⟨before, after, q, rfl, hb, ha⟩ := ih h
    exact ⟨_ :: before, after, q, rfl, .cons hs hw hb, ha⟩

section

variable {name : String} {before after : List Token}

theorem Takes.get?_last (h : Takes same p (before ++ t :: after) shares r)
    (ht : t.bound? = some name) (hn : ∀ u ∈ after, u.bound? ≠ some name) :
    ∃ share, shares[before.length]? = some share ∧ r.found.bindings.get? name =
      some (t.value same share (p.rest.drop (shares.take before.length).flatten.length)) := by
  obtain ⟨sb, _, q, rfl, hb, ha⟩ := h.split
  obtain _ | @⟨_, q', _, _, _, share, sa, hs, hw, ha⟩ := ha
  have hl : before.length = sb.length := hb.length_eq.symm
  refine ⟨share, by simp [hl], ?_⟩
  rw [ha.get?_of_ne hn, (uses_of_step hs hw).get?_eq ht, hl, List.take_left, hb.rest_eq,
    List.drop_left]

theorem Takes.get?_rest (h : Takes same p (before ++ t :: after) shares r)
    (ht : t.bound? = some name) (hr : t.isRest) (hd : ∀ u ∈ after, u = .divider) :
    r.found.bindings.get? name = some (t.value same [] r.rest) := by
  have hn : ∀ u ∈ after, u.bound? ≠ some name := by
    intro u hu
    rw [hd u hu]
    nofun
  obtain ⟨sb, _, q, rfl, _, ha⟩ := h.split
  obtain _ | @⟨_, q', _, _, _, share, sa, hs, hw, ha⟩ := ha
  have hu := uses_of_step hs hw
  have hshare : share = [] := hu.still (by simp [Token.isStill, hr])
  have hleft : q.rest = r.rest := by
    have hstill : ∀ u ∈ after, u.isStill := fun u h => by simp [Token.isStill, hd u h]
    rw [hw, ha.rest_eq, ha.flatten_eq_nil hstill, hshare]
    rfl
  rw [ha.get?_of_ne hn, hu.get?_eq ht, hshare, hleft]

end

theorem isSome_step (hp : p.inHead = false) (t : Token) : (p.step same t).isSome := by
  cases t with
  | literal word =>
    simp only [step, literal, disarm, hp]
    split
    · rfl
    · split <;> rfl
  | choice name others =>
    simp only [step, choice, disarm, hp]
    split
    · rfl
    · split <;> rfl
  | _ => rfl

/-- Behind the divider every line is read to the end. -/
theorem isSome_steps (hp : p.inHead = false) (ts : List Token) :
    (ts.foldlM (step same) p).isSome := by
  induction ts generalizing p with
  | nil => rfl
  | cons t ts ih =>
    have hstep : (p.step same t).isSome := isSome_step hp t
    obtain ⟨q, hs⟩ := Option.isSome_iff_exists.mp hstep
    obtain ⟨share, hu⟩ := exists_uses hs
    simpa [hs] using ih (hu.inHead_eq_false hp)

theorem isSome_steps_iff (ts : List Token) (p : Progress) :
    (ts.foldlM (step same) p).isSome ↔
      ((ts.takeWhile (· != .divider)).foldlM (step same) p).isSome := by
  induction ts generalizing p with
  | nil => rfl
  | cons t ts ih =>
    by_cases ht : t = .divider
    · subst ht
      exact iff_of_true (isSome_steps (p := { p with inHead := false }) rfl ts) rfl
    · rw [List.takeWhile_cons_of_pos (by simpa using ht), List.foldlM_cons, List.foldlM_cons]
      cases p.step same t with
      | none => rfl
      | some q => exact ih q

end

end Progress

theorem length_of_mapM {ws : List String} {ts : List Token} (h : ws.mapM Token.read = .ok ts) :
    ts.length = ws.length := by
  induction ws generalizing ts with
  | nil =>
    cases h
    rfl
  | cons w ws ih =>
    rw [List.mapM_cons] at h
    cases ht : Token.read w with
    | error e => rw [ht] at h; cases h
    | ok t =>
      cases hts : ws.mapM Token.read with
      | error e => rw [ht, hts] at h; cases h
      | ok us =>
        rw [ht, hts] at h
        cases h
        rw [List.length_cons, List.length_cons, ih hts]

theorem dividers_of_misplacedRest? {l : List (String × Token)} (h : misplacedRest? l = none)
    {before after : List Token} {t : Token} (hl : l.map (·.2) = before ++ t :: after)
    (ht : t.isRest) : ∀ u ∈ after, u = .divider := by
  induction l generalizing before with
  | nil => simp at hl
  | cons e l ih =>
    obtain ⟨w, u⟩ := e
    rw [misplacedRest?] at h
    by_cases hu : u.isRest
    · have hall (v : Token) (hv : v ∈ l.map (·.2)) : v = .divider := by
        obtain ⟨⟨w', v⟩, hm, rfl⟩ := List.mem_map.mp hv
        have hl : ∀ w v, (w, v) ∈ l → v = Token.divider := by simpa [hu] using h
        exact hl w' v hm
      intro v hv
      cases before with
      | nil =>
        obtain ⟨-, rfl⟩ := List.cons.inj hl
        exact hall v hv
      | cons b before =>
        obtain ⟨-, hl⟩ := List.cons.inj hl
        exact hall v (hl ▸ List.mem_append_right _ (List.mem_cons_of_mem _ hv))
    · rw [if_neg hu] at h
      cases before with
      | nil =>
        have hut : u = t := (List.cons.inj hl).1
        exact absurd (hut ▸ ht) hu
      | cons b before => exact ih h (List.cons.inj hl).2

theorem Spec.dividers_of_read {source : String} {s : Spec} (h : read source = .ok s)
    {before after : List Token} {t : Token} (hs : s.tokens = before ++ t :: after)
    (ht : t.isRest) : ∀ u ∈ after, u = .divider := by
  unfold read at h
  dsimp only at h
  cases hm : (Text.words source).mapM Token.read with
  | error e =>
    rw [hm] at h
    cases h
  | ok ts =>
    rw [hm] at h
    dsimp only [Except.bind, Bind.bind] at h
    split at h
    · cases h
    · cases hr : misplacedRest? ((Text.words source).zip ts) with
      | some w =>
        simp only [hr] at h
        cases h
      | none =>
        simp only [hr] at h
        cases h
        have hz : ((Text.words source).zip ts).map (·.2) = ts :=
          List.map_snd_zip (Nat.le_of_eq (length_of_mapM hm))
        exact dividers_of_misplacedRest? hr (hz.trans hs) ht

def Spec.head (s : Spec) : Spec := { s with tokens := s.tokens.takeWhile (· != .divider) }

theorem Spec.valid_matchLine_iff (s : Spec) (words : List String) :
    (s.matchLine words).valid ↔ words ≠ [] ∧ (s.head.matchLine words).valid := by
  rw [← isSome_matchWords?, ← isSome_matchWords?, matchWords?_eq, matchWords?_eq]
  cases words with
  | nil => simp
  | cons w ws =>
    simp only [List.isEmpty_cons, Bool.false_eq_true, if_false, Option.isSome_map, ne_eq,
      reduceCtorEq, not_false_eq_true, true_and]
    exact Progress.isSome_steps_iff s.tokens _

theorem Spec.matchLine_cases (s : Spec) (words : List String) :
    s.matchLine words = .invalid ∨
      ∃ p, s.tokens.foldlM (Progress.step s.same) (.start words) = some p ∧
        s.matchLine words = ⟨p.found, true⟩ := by
  unfold matchLine
  split
  · exact .inl rfl
  · split
    · next p hp => exact .inr ⟨p, hp, rfl⟩
    · exact .inl rfl

/-- How a line that matches is shared out. The tokens of the pattern take the first `k` words, each
token one of them or none, and `h` of these are taken before the divider. -/
structure Spec.SharesOut (s : Spec) (words : List String) (m : Match)
    (shares : List (List String)) (h k : Nat) : Prop where
  takes : ∃ p, Progress.Takes s.same (.start words) s.tokens shares p ∧ p.found = m
  each : shares.length = s.tokens.length
  one : ∀ share ∈ shares, share.length ≤ 1
  taken : shares.flatten = words.take k
  count : shares.flatten.length = k
  head : (shares.take s.head.tokens.length).flatten = words.take h
  head_le : h ≤ k
  headWords : m.headWords = words.take h
  /-- The last token of a name binds it by what the token takes. -/
  bound {before after : List Token} {t : Token} {name : String}
    (hs : s.tokens = before ++ t :: after) (ht : t.bound? = some name)
    (hn : ∀ u ∈ after, u.bound? ≠ some name) :
    ∃ share, shares[before.length]? = some share ∧ m.bindings.get? name =
      some (t.value s.same share (words.drop (shares.take before.length).flatten.length))
  restList {name : String} (ht : .restList name ∈ s.tokens) :
    m.bindings.get? name = some (.list (words.drop k))
  restText {name : String} (ht : .restText name ∈ s.tokens) :
    m.bindings.get? name = some (if Text.unwords (words.drop k) = "" then .absent
      else .text (Text.unwords (words.drop k)))

/-- A line matches a compiled pattern just if it has words and the pattern up to its first divider
matches it. Of a line that does not match, nothing is kept. The words of a line that matches are
shared out among the tokens from the front, and a token for the rest of the line binds the words
that no token takes. -/
theorem match_shares_out {source : String} {compiled : Spec}
    (hc : Spec.read source = .ok compiled) (ignoreCase : Bool) (words : List String) :
    let s : Spec := { compiled with ignoreCase := ignoreCase }
    let result := s.matchLine words
    (result.valid ↔ words ≠ [] ∧ (s.head.matchLine words).valid) ∧
    (¬ result.valid →
      result.headWords = [] ∧ result.bindings = .empty ∧ result.mismatches = []) ∧
    (result.valid → ∃ shares h k, s.SharesOut words result.toMatch shares h k) := by
  intro s result
  refine ⟨s.valid_matchLine_iff words, ?_⟩
  rcases s.matchLine_cases words with hr | ⟨p, hp, hr⟩
  · rw [show result = .invalid from hr]
    exact ⟨fun _ => ⟨rfl, rfl, rfl⟩, nofun⟩
  · rw [show result = ⟨p.found, true⟩ from hr]
    refine ⟨fun hv => absurd rfl hv, fun _ => ?_⟩
    obtain ⟨shares, ht⟩ := Progress.exists_takes hp
    have hleft : words.drop shares.flatten.length = p.rest := ht.drop_eq
    have hrest {t : Token} {name : String} (hb : t.bound? = some name) (hr : t.isRest)
        (hmem : t ∈ s.tokens) : p.found.bindings.get? name = some (t.value s.same [] p.rest) := by
      obtain ⟨before, after, hs⟩ := List.append_of_mem hmem
      rw [hs] at ht
      exact ht.get?_rest hb hr (Spec.dividers_of_read hc hs hr)
    have hhead := ht.take_eq s.head.tokens.length
    refine ⟨shares, (shares.take s.head.tokens.length).flatten.length, shares.flatten.length, ?_⟩
    constructor
    case takes => exact ⟨p, ht, rfl⟩
    case each => exact ht.length_eq
    case one => exact ht.length_le_one
    case taken =>
      have htaken := ht.take_eq shares.length
      rw [List.take_length] at htaken
      exact htaken.symm
    case count => rfl
    case head => exact hhead.symm
    case head_le =>
      rw [Progress.flatten_eq_append shares s.head.tokens.length, List.length_append]
      exact Nat.le_add_right _ _
    case headWords => exact (ht.headWords_eq rfl).trans hhead.symm
    case bound =>
      intro before after t name hs hb hn
      rw [hs] at ht
      exact ht.get?_last hb hn
    case restList =>
      intro name hmem
      rw [hleft]
      exact hrest rfl rfl hmem
    case restText =>
      intro name hmem
      rw [hleft]
      exact hrest rfl rfl hmem

def speedPattern : String := "~/set =/speed ~/of : +/tag ~/to +/speed ~/in */time"

def speedTokens : List Token :=
  [.flag "set", .literal "speed", .flag "of", .divider, .required "tag", .flag "to",
    .required "speed", .flag "in", .restText "time"]

def speedLine : List String := ["Set", "speed", "cat", "to", "3", "in", "2", "seconds"]

theorem match_shares_out_speed :
    Spec.read speedPattern = .ok ⟨speedTokens, false, speedPattern⟩ ∧
    (∃ shares h k, Spec.SharesOut ⟨speedTokens, true, speedPattern⟩ speedLine
      (Spec.matchLine ⟨speedTokens, true, speedPattern⟩ speedLine).toMatch shares h k) ∧
    (Spec.matchLine ⟨speedTokens, true, speedPattern⟩ ["set", "size"]).headWords = [] := by
  have hc : Spec.read speedPattern = .ok ⟨speedTokens, false, speedPattern⟩ := by
    rw [Spec.read_eq]
    rfl
  obtain ⟨hvalid, -, hshares⟩ := match_shares_out hc true speedLine
  obtain ⟨-, hempty, -⟩ := match_shares_out hc true ["set", "size"]
  exact ⟨hc, hshares (hvalid.mpr (by decide)), (hempty (by decide)).1⟩

end Showrunner.Pattern
