import Mathlib.Data.List.Forall2
import Showrunner.Pattern.Spec
import Showrunner.Proofs.Text.Words

/-!
The written form of patterns. Main statement: `Spec.read_grammar`.
-/

namespace Showrunner

namespace Text

variable {c : Char} {s : List Char}

theorem pieces_of_not_mem (hs : c ∉ s) : pieces (· == c) s = (s, []) := by
  induction s with
  | nil => rfl
  | cons d s ih =>
    obtain ⟨hd, hs⟩ := not_or.mp (List.mem_cons.not.mp hs)
    simp [pieces, Ne.symm hd, ih hs]

theorem pieces_append (hs : c ∉ s) (rest : List Char) : pieces (· == c) (s ++ c :: rest) =
    (s, (pieces (· == c) rest).1 :: (pieces (· == c) rest).2) := by
  induction s with
  | nil => simp [pieces]
  | cons d s ih =>
    obtain ⟨hd, hs⟩ := not_or.mp (List.mem_cons.not.mp hs)
    simp [pieces, Ne.symm hd, ih hs]

theorem toList_joinWith {sep : String} (w v : String) (ws : List String) :
    (joinWith sep (w :: v :: ws)).toList =
      w.toList ++ sep.toList ++ (joinWith sep (v :: ws)).toList := by
  rw [joinWith, String.toList_append, String.toList_append]

theorem joinWith_pieces {sep : String} (hsep : sep.toList = [c]) (s : List Char) :
    (joinWith sep (.ofList (pieces (· == c) s).1 :: (pieces (· == c) s).2.map .ofList)).toList =
      s := by
  induction s with
  | nil => simp [pieces, joinWith]
  | cons d s ih =>
    by_cases hd : d = c
    · subst hd
      have hp : pieces (· == d) (d :: s) =
          ([], (pieces (· == d) s).1 :: (pieces (· == d) s).2) := by
        simp [pieces]
      rw [hp, List.map_cons, toList_joinWith, ih, hsep]
      simp
    · have hp : pieces (· == c) (d :: s) = (d :: (pieces (· == c) s).1, (pieces (· == c) s).2) := by
        simp [pieces, hd]
      rw [hp]
      cases hws : (pieces (· == c) s).2 with
      | nil =>
        rw [hws] at ih
        simpa [joinWith] using ih
      | cons v vs =>
        rw [hws, List.map_cons, toList_joinWith] at ih
        rw [List.map_cons, toList_joinWith]
        simpa using ih

theorem joinWith_splitOn {sep : String} (hsep : sep.toList = [c]) (s : String) :
    joinWith sep ((splitOn c s).1 :: (splitOn c s).2) = s :=
  String.toList_inj.mp (joinWith_pieces hsep s.toList)

theorem splitOn_joinWith {sep w : String} {ws : List String} (hsep : sep.toList = [c])
    (h : ∀ v ∈ w :: ws, c ∉ v.toList) : splitOn c (joinWith sep (w :: ws)) = (w, ws) := by
  induction ws generalizing w with
  | nil => simp [splitOn, joinWith, pieces_of_not_mem (h w List.mem_cons_self)]
  | cons v ws ih =>
    obtain ⟨hw, hws⟩ := List.forall_mem_cons.mp h
    obtain ⟨hfirst, hothers⟩ := Prod.mk.inj (ih hws)
    rw [splitOn, toList_joinWith, hsep, List.append_assoc, List.singleton_append, pieces_append hw]
    simp [hfirst, hothers]

end Text

namespace Pattern

/-- What may stand in front of the slash of a token. -/
def markers : List String := ["+", "?", "=", "|", "~", "&", "*", ">", "#"]

/-- A word that is a token: the divider, or a marker, a slash and a value that is not empty. -/
def IsToken (w : String) : Prop :=
  w = ":" ∨ ∃ marker ∈ markers, ∃ value, value ≠ "" ∧ w = marker ++ "/" ++ value

def TakesRest (w : String) : Prop := ∃ value, value ≠ "" ∧ (w = "*/" ++ value ∨ w = ">/" ++ value)

/-- A word is cut at its first slash, and there is something on either side of it. -/
structure Cut (w marker value : String) : Prop where
  word : w = marker ++ "/" ++ value
  marker_ne : marker ≠ ""
  slash : '/' ∉ marker.toList
  value_ne : value ≠ ""

namespace Cut

variable {w marker value marker' value' : String}

theorem splitFirst_eq (h : Cut w marker value) :
    Text.splitFirst (· == '/') w.toList = some (marker.toList, value.toList) := by
  have hslash : ∀ c ∈ marker.toList, (c == '/') = false := fun c hc =>
    beq_false_of_ne fun he => h.slash (he ▸ hc)
  have hword : w.toList = marker.toList ++ '/' :: value.toList := by simp [h.word]
  rw [hword]
  exact Text.splitFirst_append hslash rfl _

theorem ne_divider (h : Cut w marker value) : w ≠ ":" := by
  rintro rfl
  have hs := h.splitFirst_eq
  have hnone : Text.splitFirst (· == '/') ":".toList = none := by decide
  rw [hnone] at hs
  cases hs

theorem marker_eq (h : Cut w marker value) (h' : Cut w marker' value') : marker = marker' := by
  have hs := h.splitFirst_eq.symm.trans h'.splitFirst_eq
  exact String.toList_inj.mp (congrArg Prod.fst (Option.some.inj hs))

theorem of_mem (hm : marker ∈ markers) (hv : value ≠ "") :
    Cut (marker ++ "/" ++ value) marker value := by
  have hmarkers : ∀ marker ∈ markers, marker ≠ "" ∧ '/' ∉ marker.toList := by decide
  exact ⟨rfl, (hmarkers marker hm).1, (hmarkers marker hm).2, hv⟩

theorem takesRest_iff (h : Cut w marker value) : TakesRest w ↔ marker = "*" ∨ marker = ">" := by
  constructor
  · rintro ⟨rest, hne, hw | hw⟩
    · have hcut : Cut ("*" ++ "/" ++ rest) "*" rest := .of_mem (by decide) hne
      exact .inl (h.marker_eq (hw ▸ hcut))
    · have hcut : Cut (">" ++ "/" ++ rest) ">" rest := .of_mem (by decide) hne
      exact .inr (h.marker_eq (hw ▸ hcut))
  · rintro (rfl | rfl)
    · exact ⟨value, h.value_ne, .inl h.word⟩
    · exact ⟨value, h.value_ne, .inr h.word⟩

end Cut

inductive Fault : String → SpecError → Prop
  | malformed {w : String} (hd : w ≠ ":") (h : ∀ marker value, ¬ Cut w marker value) :
    Fault w (.malformedToken w)
  | unknown {w marker value : String} (h : Cut w marker value) (hm : marker ∉ markers) :
    Fault w (.unknownMarker marker w)

structure Accepted (ws : List String) : Prop where
  tokens : ∀ w ∈ ws, IsToken w
  filled : ∃ w ∈ ws, w ≠ ":"
  rest : ws.Pairwise fun v w => TakesRest v → w = ":"

/-- Why the words of a text are not those of a pattern. The first word that is no token counts
before all else. -/
inductive Refused (ws : List String) : SpecError → Prop
  | token {before after : List String} {w : String} {e : SpecError}
    (hw : ws = before ++ w :: after) (hb : ∀ v ∈ before, IsToken v) (hf : Fault w e) : Refused ws e
  | empty (hd : ∀ w ∈ ws, w = ":") : Refused ws .empty
  | rest {before after : List String} {w : String} (ht : ∀ v ∈ ws, IsToken v)
    (hw : ws = before ++ w :: after) (hb : ∀ v ∈ before, ¬ TakesRest v) (hr : TakesRest w)
    (ha : ∃ v ∈ after, v ≠ ":") : Refused ws (.restNotLast w)

namespace Token

def operand : Token → String
  | .required s | .optional s | .literal s | .flag s | .flagBound s | .restText s | .restList s
  | .number s => s
  | .choice name others => Text.joinWith "|" (name :: others)
  | .divider => ""

/-- A token whose written form is read as that token. -/
structure Printable (t : Token) : Prop where
  filled : t ≠ .divider → t.operand ≠ ""
  solid : Text.Solid t.operand.toList
  barless : ∀ name others, t = .choice name others → ∀ a ∈ name :: others, '|' ∉ a.toList

def ofMarker? : List Char → Option (String → Token)
  | ['+'] => some .required
  | ['?'] => some .optional
  | ['='] => some .literal
  | ['|'] => some alternatives
  | ['~'] => some .flag
  | ['&'] => some .flagBound
  | ['*'] => some .restText
  | ['>'] => some .restList
  | ['#'] => some .number
  | _ => none

variable {w marker value : String} {t : Token}

theorem ofMarker?_isSome : (ofMarker? marker.toList).isSome ↔ marker ∈ markers := by
  have hmem : marker ∈ markers ↔ marker.toList ∈ markers.map String.toList :=
    (List.mem_map_of_injective (fun _ _ h => String.toList_inj.mp h)).symm
  rw [hmem]
  unfold ofMarker?
  split <;> simp_all [markers]

theorem read_of_cut (h : Cut w marker value) : read w =
    match ofMarker? marker.toList with
    | some make => .ok (make value)
    | none => .error (.unknownMarker marker w) := by
  have hd : (w == ":") = false := beq_false_of_ne h.ne_divider
  obtain ⟨m, ms, hm⟩ := List.exists_cons_of_ne_nil (by simpa using h.marker_ne : marker.toList ≠ [])
  obtain ⟨v, vs, hv⟩ := List.exists_cons_of_ne_nil (by simpa using h.value_ne : value.toList ≠ [])
  have hmarker : marker = .ofList (m :: ms) := by rw [← hm, String.ofList_toList]
  have hvalue : value = .ofList (v :: vs) := by rw [← hv, String.ofList_toList]
  unfold read
  rw [hd, if_neg (by simp), h.splitFirst_eq, hm, hv, hmarker, hvalue]
  dsimp only
  unfold ofMarker?
  split <;> simp [*]

theorem read_of_not_cut (hd : w ≠ ":") (h : ∀ marker value, ¬ Cut w marker value) :
    read w = .error (.malformedToken w) := by
  unfold read
  rw [if_neg (by simpa using hd)]
  split
  · rfl
  · rfl
  · rfl
  · next marker value hm hv hs =>
    obtain ⟨slash, hslash, hw⟩ := Text.splitFirst_eq_some hs
    have hnone := Text.forall_of_splitFirst hs
    obtain rfl : slash = '/' := by simpa using hslash
    refine absurd ?_ (h (.ofList marker) (.ofList value))
    constructor
    case word => exact String.toList_inj.mp (by simp [hw])
    case marker_ne => simpa using hm
    case slash => simpa using fun hc => by simpa using hnone '/' hc
    case value_ne => simpa using hv

theorem ofMarker?_render {cs : List Char} {make : String → Token} (h : ofMarker? cs = some make)
    (value : String) : (make value).render = .ofList cs ++ "/" ++ value := by
  unfold ofMarker? at h
  split at h <;> cases h <;> apply String.toList_inj.mp
  case h_4 =>
    have hvalue : Text.joinWith "|" ((Text.splitOn '|' value).1 :: (Text.splitOn '|' value).2) =
        value :=
      Text.joinWith_splitOn rfl value
    simp [alternatives, render, hvalue]
  all_goals simp [render]

theorem operand_ofMarker? {cs : List Char} {make : String → Token} (h : ofMarker? cs = some make)
    (value : String) : (make value).operand = value ∧ make value ≠ .divider := by
  unfold ofMarker? at h
  split at h <;> cases h
  case h_4 => exact ⟨Text.joinWith_splitOn rfl value, by simp [alternatives]⟩
  all_goals exact ⟨rfl, by simp⟩

theorem ofMarker?_isRest {cs : List Char} {make : String → Token} (h : ofMarker? cs = some make)
    (value : String) : (make value).isRest ↔ cs = ['*'] ∨ cs = ['>'] := by
  unfold ofMarker? at h
  split at h <;> cases h <;> simp [isRest, alternatives]

structure ReadAs (w : String) (t : Token) : Prop where
  read : read w = .ok t
  render : t.render = w
  divider : t = .divider ↔ w = ":"
  rest : t.isRest ↔ TakesRest w

theorem readAs_divider : ReadAs ":" .divider where
  read := rfl
  render := rfl
  divider := iff_of_true rfl rfl
  rest := by
    refine iff_of_false (by simp [isRest]) ?_
    rintro ⟨value, -, h | h⟩
    · have hl := congrArg String.toList h
      simp at hl
    · have hl := congrArg String.toList h
      simp at hl

theorem readAs_of_cut {make : String → Token} (h : Cut w marker value)
    (hm : ofMarker? marker.toList = some make) : ReadAs w (make value) where
  read := by rw [read_of_cut h, hm]
  render := by rw [ofMarker?_render hm, String.ofList_toList, h.word]
  divider := iff_of_false (operand_ofMarker? hm value).2 h.ne_divider
  rest := by
    rw [ofMarker?_isRest hm, h.takesRest_iff, ← String.toList_inj, ← String.toList_inj]
    exact Iff.rfl

theorem exists_readAs (h : IsToken w) : ∃ t, ReadAs w t := by
  obtain rfl | ⟨marker, hm, value, hv, rfl⟩ := h
  · exact ⟨.divider, readAs_divider⟩
  · obtain ⟨make, hmake⟩ := Option.isSome_iff_exists.mp (ofMarker?_isSome.mpr hm)
    exact ⟨make value, readAs_of_cut (.of_mem hm hv) hmake⟩

theorem read_of_fault {e : SpecError} (h : Fault w e) : read w = .error e := by
  cases h with
  | malformed hd h => exact read_of_not_cut hd h
  | @unknown marker _ h hm =>
    have hnone : ofMarker? marker.toList = none := by
      rw [← Option.not_isSome_iff_eq_none, ofMarker?_isSome]
      exact hm
    rw [read_of_cut h, hnone]

theorem isToken_or_fault (w : String) : IsToken w ∨ ∃ e, Fault w e := by
  by_cases hd : w = ":"
  · exact .inl (.inl hd)
  · by_cases h : ∃ marker value, Cut w marker value
    · obtain ⟨marker, value, h⟩ := h
      by_cases hm : marker ∈ markers
      · exact .inl (.inr ⟨marker, hm, value, h.value_ne, h.word⟩)
      · exact .inr ⟨_, .unknown h hm⟩
    · exact .inr ⟨_, .malformed hd fun marker value hc => h ⟨marker, value, hc⟩⟩

theorem Printable.exists_marker (h : t.Printable) (hd : t ≠ .divider) :
    ∃ marker ∈ markers, ∃ make, ofMarker? marker.toList = some make ∧ make t.operand = t := by
  cases t with
  | required s => exact ⟨"+", by decide, .required, rfl, rfl⟩
  | optional s => exact ⟨"?", by decide, .optional, rfl, rfl⟩
  | literal s => exact ⟨"=", by decide, .literal, rfl, rfl⟩
  | choice name others =>
    refine ⟨"|", by decide, alternatives, rfl, ?_⟩
    rw [alternatives, operand, Text.splitOn_joinWith rfl (h.barless name others rfl)]
  | flag s => exact ⟨"~", by decide, .flag, rfl, rfl⟩
  | flagBound s => exact ⟨"&", by decide, .flagBound, rfl, rfl⟩
  | restText s => exact ⟨"*", by decide, .restText, rfl, rfl⟩
  | restList s => exact ⟨">", by decide, .restList, rfl, rfl⟩
  | number s => exact ⟨"#", by decide, .number, rfl, rfl⟩
  | divider => exact absurd rfl hd

theorem Printable.readAs (h : t.Printable) :
    ReadAs t.render t ∧ IsToken t.render ∧ Text.Solid t.render.toList ∧ t.render ≠ "" := by
  by_cases hd : t = .divider
  · subst hd
    exact ⟨readAs_divider, .inl rfl, by decide, by decide⟩
  · obtain ⟨marker, hm, make, hmake, ht⟩ := h.exists_marker hd
    have hcut : Cut (marker ++ "/" ++ t.operand) marker t.operand := .of_mem hm (h.filled hd)
    have hread := readAs_of_cut hcut hmake
    rw [ht] at hread
    have hsolid : ∀ marker ∈ markers, Text.Solid (marker ++ "/").toList := by decide
    rw [hread.render]
    refine ⟨hread, .inr ⟨marker, hm, t.operand, h.filled hd, rfl⟩, ?_, ?_⟩
    · rw [String.toList_append]
      exact List.forall_mem_append.mpr ⟨hsolid marker hm, h.solid⟩
    · simp

end Token

open Token (ReadAs)

variable {ws before after : List String} {ts : List Token} {w source : String} {e : SpecError}

theorem mapM_of_readAs (h : List.Forall₂ ReadAs ws ts) : ws.mapM Token.read = .ok ts := by
  induction h with
  | nil => rfl
  | cons h _ ih =>
    rw [List.mapM_cons, h.read, ih]
    rfl

theorem mapM_of_fault (hb : ∀ v ∈ before, IsToken v) (hf : Fault w e) :
    (before ++ w :: after).mapM Token.read = .error e := by
  induction before with
  | nil =>
    rw [List.nil_append, List.mapM_cons, Token.read_of_fault hf]
    rfl
  | cons v before ih =>
    obtain ⟨hv, hb⟩ := List.forall_mem_cons.mp hb
    obtain ⟨t, ht⟩ := Token.exists_readAs hv
    rw [List.cons_append, List.mapM_cons, ht.read, ih hb]
    rfl

theorem exists_forall_readAs (h : ∀ w ∈ ws, IsToken w) : ∃ ts, List.Forall₂ ReadAs ws ts := by
  induction ws with
  | nil => exact ⟨[], .nil⟩
  | cons w ws ih =>
    obtain ⟨hw, hws⟩ := List.forall_mem_cons.mp h
    obtain ⟨t, ht⟩ := Token.exists_readAs hw
    obtain ⟨ts, hts⟩ := ih hws
    exact ⟨t :: ts, .cons ht hts⟩

theorem map_render_of_readAs (h : List.Forall₂ ReadAs ws ts) : ts.map Token.render = ws := by
  induction h with
  | nil => rfl
  | cons h _ ih => rw [List.map_cons, h.render, ih]

theorem all_divider_iff (h : List.Forall₂ ReadAs ws ts) :
    (ts.all (· == .divider)) = true ↔ ∀ w ∈ ws, w = ":" := by
  induction h with
  | nil => simp
  | cons h _ ih => simp [ih, h.divider]

theorem all_zip_iff (h : List.Forall₂ ReadAs ws ts) :
    ((ws.zip ts).all (·.2 == .divider)) = true ↔ ∀ w ∈ ws, w = ":" := by
  have hz : (ws.zip ts).map Prod.snd = ts := List.map_snd_zip h.length_eq.ge
  rw [← all_divider_iff h, ← hz, List.all_map, hz]
  rfl

theorem misplacedRest?_of_pairwise (h : List.Forall₂ ReadAs ws ts)
    (hr : ws.Pairwise fun v w => TakesRest v → w = ":") : misplacedRest? (ws.zip ts) = none := by
  induction h with
  | nil => rfl
  | @cons w t ws ts h hs ih =>
    obtain ⟨hw, hr⟩ := List.pairwise_cons.mp hr
    rw [List.zip_cons_cons, misplacedRest?]
    by_cases ht : t.isRest
    · have hall : ∀ w ∈ ws, w = ":" := fun v hv => hw v hv (h.rest.mp ht)
      rw [if_pos ht, if_pos ((all_zip_iff hs).mpr hall)]
    · rw [if_neg ht, ih hr]

theorem misplacedRest?_of_rest (h : List.Forall₂ ReadAs (before ++ w :: after) ts)
    (hb : ∀ v ∈ before, ¬ TakesRest v) (hw : TakesRest w) (ha : ∃ v ∈ after, v ≠ ":") :
    misplacedRest? ((before ++ w :: after).zip ts) = some w := by
  induction before generalizing ts with
  | nil =>
    obtain _ | ⟨h, hs⟩ := h
    have hall : ¬ ∀ v ∈ after, v = ":" := by simpa using ha
    rw [List.nil_append, List.zip_cons_cons, misplacedRest?, if_pos (h.rest.mpr hw),
      if_neg (mt (all_zip_iff hs).mp hall)]
  | cons v before ih =>
    obtain _ | ⟨h, hs⟩ := h
    obtain ⟨hv, hb⟩ := List.forall_mem_cons.mp hb
    rw [List.cons_append, List.zip_cons_cons, misplacedRest?, if_neg (mt h.rest.mp hv)]
    exact ih hs hb

theorem exists_first {P : String → Prop} (h : ∃ w ∈ ws, P w) :
    ∃ before w after, ws = before ++ w :: after ∧ (∀ v ∈ before, ¬ P v) ∧ P w := by
  classical
  have hf : (ws.find? (P ·)).isSome := by simpa using h
  obtain ⟨w, hw⟩ := Option.isSome_iff_exists.mp hf
  obtain ⟨hp, before, after, rfl, hb⟩ := List.find?_eq_some_iff_append.mp hw
  exact ⟨before, w, after, rfl, by simpa using hb, by simpa using hp⟩

theorem pairwise_of_no_rest (h : ∀ v ∈ ws, ¬ TakesRest v) :
    ws.Pairwise fun v w => TakesRest v → w = ":" :=
  List.pairwise_of_forall_mem_list fun v hv _ _ hr => absurd hr (h v hv)

theorem pairwise_of_rest (hb : ∀ v ∈ before, ¬ TakesRest v) (ha : ∀ v ∈ after, v = ":") :
    (before ++ w :: after).Pairwise fun v w => TakesRest v → w = ":" := by
  have hafter : after.Pairwise fun v w => TakesRest v → w = ":" :=
    List.pairwise_of_forall_mem_list fun _ _ v hv _ => ha v hv
  have hw : (w :: after).Pairwise fun v w => TakesRest v → w = ":" :=
    List.pairwise_cons.mpr ⟨fun v hv _ => ha v hv, hafter⟩
  exact List.pairwise_append.mpr
    ⟨pairwise_of_no_rest hb, hw, fun v hv _ _ hr => absurd hr (hb v hv)⟩

/-- The words of a text are those of a pattern, or there is a reason why not. -/
theorem accepted_or_refused (ws : List String) : Accepted ws ∨ ∃ e, Refused ws e := by
  by_cases ht : ∀ w ∈ ws, IsToken w
  · by_cases hd : ∀ w ∈ ws, w = ":"
    · exact .inr ⟨_, .empty hd⟩
    · have hd : ∃ w ∈ ws, w ≠ ":" := by simpa using hd
      by_cases hr : ws.Pairwise fun v w => TakesRest v → w = ":"
      · exact .inl ⟨ht, hd, hr⟩
      · have hrest : ∃ w ∈ ws, TakesRest w := by
          by_contra hno
          exact hr (pairwise_of_no_rest (by simpa using hno))
        obtain ⟨before, w, after, rfl, hb, hw⟩ := exists_first hrest
        have ha : ∃ v ∈ after, v ≠ ":" := by
          by_contra hno
          exact hr (pairwise_of_rest hb (by simpa using hno))
        exact .inr ⟨_, .rest ht rfl hb hw ha⟩
  · have ht : ∃ w ∈ ws, ¬ IsToken w := by simpa using ht
    obtain ⟨before, w, after, rfl, hb, hw⟩ := exists_first ht
    obtain ⟨e, he⟩ := (Token.isToken_or_fault w).resolve_left hw
    exact .inr ⟨e, .token rfl (fun v hv => not_not.mp (hb v hv)) he⟩

namespace Spec

theorem read_of_mapM (hm : (Text.words source).mapM Token.read = .ok ts) : read source =
    if ts.all (· == .divider) then .error .empty
    else match misplacedRest? ((Text.words source).zip ts) with
      | some w => .error (.restNotLast w)
      | none => .ok ⟨ts, false, source⟩ := by
  unfold read
  simp only [hm]
  rfl

theorem read_of_readAs (h : List.Forall₂ ReadAs (Text.words source) ts)
    (hf : ∃ w ∈ Text.words source, w ≠ ":")
    (hr : (Text.words source).Pairwise fun v w => TakesRest v → w = ":") :
    read source = .ok ⟨ts, false, source⟩ := by
  have hd : ¬ ∀ w ∈ Text.words source, w = ":" := by simpa using hf
  rw [read_of_mapM (mapM_of_readAs h), if_neg (mt (all_divider_iff h).mp hd),
    misplacedRest?_of_pairwise h hr]

theorem read_of_refused (h : Refused (Text.words source) e) : read source = .error e := by
  cases h with
  | token hw hb hf =>
    unfold read
    simp only [hw, mapM_of_fault hb hf]
    rfl
  | empty hd =>
    obtain ⟨ts, hts⟩ := exists_forall_readAs fun w hw => .inl (hd w hw)
    rw [read_of_mapM (mapM_of_readAs hts), if_pos ((all_divider_iff hts).mpr hd)]
  | @rest before after w ht hw hb hr ha =>
    obtain ⟨ts, hts⟩ := exists_forall_readAs ht
    obtain ⟨v, hv, hne⟩ := ha
    have hd : ¬ ∀ w ∈ Text.words source, w = ":" := fun hall =>
      hne (hall v (by simp [hw, hv]))
    have hmisplaced : misplacedRest? ((Text.words source).zip ts) = some w := by
      rw [hw] at hts ⊢
      exact misplacedRest?_of_rest hts hb hr ⟨v, hv, hne⟩
    rw [read_of_mapM (mapM_of_readAs hts), if_neg (mt (all_divider_iff hts).mp hd), hmisplaced]

theorem exists_read_of_accepted (h : Accepted (Text.words source)) :
    ∃ ts, read source = .ok ⟨ts, false, source⟩ ∧ ts.map Token.render = Text.words source := by
  obtain ⟨ts, hts⟩ := exists_forall_readAs h.tokens
  exact ⟨ts, read_of_readAs hts h.filled h.rest, map_render_of_readAs hts⟩

end Spec

structure Written (ts : List Token) : Prop where
  printable : ∀ t ∈ ts, t.Printable
  filled : ∃ t ∈ ts, t ≠ .divider
  rest : ts.Pairwise fun t u => t.isRest → u = .divider

theorem Written.readAs (h : ∀ t ∈ ts, t.Printable) :
    List.Forall₂ ReadAs (ts.map Token.render) ts := by
  induction ts with
  | nil => exact .nil
  | cons t ts ih =>
    obtain ⟨ht, hts⟩ := List.forall_mem_cons.mp h
    exact .cons ht.readAs.1 (ih hts)

theorem Spec.read_of_written (h : Written ts) :
    read (Text.unwords (ts.map Token.render)) =
      .ok ⟨ts, false, Text.unwords (ts.map Token.render)⟩ := by
  have hwords : Text.words (Text.unwords (ts.map Token.render)) = ts.map Token.render := by
    apply Text.words_unwords
    intro w hw
    obtain ⟨t, ht, rfl⟩ := List.mem_map.mp hw
    exact (h.printable t ht).readAs.2.2
  have hreads := Written.readAs h.printable
  rw [← hwords] at hreads
  apply read_of_readAs hreads
  · obtain ⟨t, ht, hne⟩ := h.filled
    rw [hwords]
    exact ⟨t.render, List.mem_map_of_mem ht, mt (h.printable t ht).readAs.1.divider.mpr hne⟩
  · rw [hwords]
    refine List.pairwise_map.mpr (h.rest.imp_of_mem fun {t u} ht hu hrest htakes => ?_)
    have hdivider := hrest ((h.printable t ht).readAs.1.rest.mpr htakes)
    exact (h.printable u hu).readAs.1.divider.mp hdivider

/-- A text is a pattern if its words are tokens, not all of them are dividers, and only dividers
follow a token for the rest of a line. Otherwise the first word that is no token is reported, or
else that the pattern is empty, or else the token for the rest of a line. Writing the tokens of a
pattern gives back its words, and reading what is written of tokens gives back the tokens. -/
theorem Spec.read_grammar (source : String) :
    ((∃ s, read source = .ok s) ↔ Accepted (Text.words source)) ∧
    (∀ e, read source = .error e ↔ Refused (Text.words source) e) ∧
    (∀ s, read source = .ok s → s = ⟨s.tokens, false, source⟩ ∧
      s.tokens.map Token.render = Text.words source) ∧
    ∀ ts, Written ts → read (Text.unwords (ts.map Token.render)) =
      .ok ⟨ts, false, Text.unwords (ts.map Token.render)⟩ := by
  have hcases := accepted_or_refused (Text.words source)
  refine ⟨⟨?_, ?_⟩, fun e => ⟨?_, read_of_refused⟩, ?_, fun ts => read_of_written⟩
  · rintro ⟨s, hs⟩
    refine hcases.resolve_right fun ⟨e, he⟩ => ?_
    rw [read_of_refused he] at hs
    cases hs
  · intro h
    obtain ⟨ts, hts, -⟩ := exists_read_of_accepted h
    exact ⟨_, hts⟩
  · intro he
    obtain h | ⟨e', h⟩ := hcases
    · obtain ⟨ts, hts, -⟩ := exists_read_of_accepted h
      rw [hts] at he
      cases he
    · rw [read_of_refused h] at he
      cases he
      exact h
  · intro s hs
    obtain h | ⟨e, h⟩ := hcases
    · obtain ⟨ts, hts, hrender⟩ := exists_read_of_accepted h
      rw [hts] at hs
      cases hs
      exact ⟨rfl, hrender⟩
    · rw [read_of_refused h] at hs
      cases hs

/-- Bars, slashes and colons may be part of a value, and an alternative may be empty. -/
theorem Spec.read_grammar_bars :
    read "|/a||b/c : */x:|y :" =
      .ok ⟨[.choice "a" ["", "b/c"], .divider, .restText "x:|y", .divider], false,
        "|/a||b/c : */x:|y :"⟩ ∧
    Accepted (Text.words "|/a||b/c : */x:|y :") ∧
    ["|/a||b/c", ":", "*/x:|y", ":"] = Text.words "|/a||b/c : */x:|y :" := by
  let ts : List Token := [.choice "a" ["", "b/c"], .divider, .restText "x:|y", .divider]
  have hchoice : Token.Printable (.choice "a" ["", "b/c"]) :=
    ⟨by decide, by decide, fun _ _ h => by cases h; decide⟩
  have hdivider : Token.Printable .divider := ⟨fun h => absurd rfl h, by decide, nofun⟩
  have hrest : Token.Printable (.restText "x:|y") := ⟨by decide, by decide, nofun⟩
  have hprintable : ∀ t ∈ ts, t.Printable := by simp [ts, hchoice, hdivider, hrest]
  have hwritten : Written ts := ⟨hprintable, ⟨_, List.mem_cons_self, nofun⟩, by decide⟩
  have hsource : Text.unwords (ts.map Token.render) = "|/a||b/c : */x:|y :" := by decide +kernel
  obtain ⟨hok, -, hrender, hread⟩ := read_grammar "|/a||b/c : */x:|y :"
  have hts := hread ts hwritten
  rw [hsource] at hts
  exact ⟨hts, hok.mp ⟨_, hts⟩, (hrender _ hts).2⟩

end Pattern
end Showrunner
