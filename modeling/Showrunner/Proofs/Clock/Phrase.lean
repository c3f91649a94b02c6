import Showrunner.Clock.Duration
import Showrunner.Proofs.Decimal.Sign
import Showrunner.Proofs.Text.Lowercase

namespace Showrunner.Duration

open Decimal (Numeral Unsigned Positive)

def unitWords : List String :=
  ["s", "sec", "secs", "second", "seconds", "m", "min", "mins", "minute", "minutes",
    "h", "hr", "hrs", "hour", "hours"]

def fractionWords : List String := ["half", "quarter", "quarters", "third", "thirds"]

inductive Quantity where
  | numeral (n : Numeral)
  | name (word : String) (mem : word ∈ numberNames.map Prod.fst)

namespace Quantity

def word : Quantity → String
  | numeral n => .ofList n.text
  | name word _ => word

/-- A numeral too large for a finite number counts as one. -/
def value (q : Quantity) : Float := (number? q.word).getD 1

end Quantity

structure Share where
  word : String
  mem : word ∈ fractionWords

def Share.value (f : Share) : Float := (fraction? f.word).getD 1

structure Measure where
  word : String
  mem : word ∈ unitWords

def Measure.seconds (u : Measure) : Float := (unit? u.word).getD 1

/-- What a phrase lists: `2 minutes`, `2 and a half minutes`, or `half a minute`. -/
inductive Item where
  | plain (n : Quantity) (u : Measure)
  | mixed (n : Quantity) (f : Share) (u : Measure)
  | part (f : Share) (u : Measure)

namespace Item

def words : Item → List String
  | plain n u => [n.word, u.word]
  | mixed n f u => [n.word, "and", "a", f.word, u.word]
  | part f u => [f.word, "a", u.word]

def measure : Item → Measure
  | plain _ u | mixed _ _ u | part _ u => u

def value (i : Item) : Float := seconds i.words

/-- The total once an item is read. After something has been counted, `half a minute` is taken
for half of the unit before it, and then for a whole minute. -/
def after (last total : Float) (i : Item) : Float :=
  match i with
  | part f u => if 0 < total then total + f.value * last + u.seconds else total + i.value
  | _ => total + i.value

end Item

inductive Joint where
  | and
  | ampersand

def Joint.word : Joint → String
  | and => "and"
  | ampersand => "&"

structure Phrase where
  first : Item
  rest : List (Option Joint × Item)

namespace Phrase

def items (p : Phrase) : List Item := p.first :: p.rest.map Prod.snd

def restWords (rest : List (Option Joint × Item)) : List String :=
  rest.flatMap fun (j, i) => j.toList.map Joint.word ++ i.words

def words (p : Phrase) : List String := p.first.words ++ restWords p.rest

def countFrom (start : Float × Float) (items : List Item) : Float × Float :=
  items.foldl (fun (total, last) i => (i.after last total, i.measure.seconds)) start

def total (p : Phrase) : Float := (countFrom (0, 1) p.items).1

end Phrase

def sum (items : List Item) : Float := (items.map Item.value).foldl (· + ·) 0

/-- No item such as `half a minute` comes after something has been counted. -/
def Phrase.Ordered (p : Phrase) : Prop :=
  ∀ before f u rest, p.items = before ++ .part f u :: rest → ¬ 0 < sum before

theorem unit_spec : ∀ w ∈ unitWords,
    fraction? w = none ∧ (w == "and" || w == "&") = false ∧
      (w == "a" || w == "an" || w == "of") = false ∧ w ≠ "same" ∧
      Positive ((unit? w).getD 1) ∧ 1 * (unit? w).getD 1 = (unit? w).getD 1 := by
  decide +kernel

theorem fraction_spec : ∀ w ∈ fractionWords,
    fraction? w = some ((fraction? w).getD 1) ∧ (w == "and" || w == "&" || w == "of") = false ∧
      w ≠ "same" ∧ Unsigned ((fraction? w).getD 1) ∧
      Unsigned (1 * (1 * (fraction? w).getD 1)) := by
  decide +kernel

theorem name_spec : ∀ w ∈ numberNames.map Prod.fst,
    fraction? w = none ∧ (w == "and" || w == "&" || w == "of") = false ∧
      w ≠ "same" ∧ Unsigned ((number? w).getD 1) := by
  decide +kernel

def beginsNumeral (c : Char) : Bool := c.isDigit || c == '.'

def isNumeric (w : String) : Bool := w.toList.head?.any beginsNumeral

theorem isNumeric_text (n : Numeral) : isNumeric (.ofList n.text) := by
  obtain ⟨c, s, ht, hc⟩ := n.text_eq_cons
  rw [isNumeric, ht, String.toList_ofList, List.head?_cons, Option.any_some, beginsNumeral]
  rcases hc with hc | ⟨rfl, -⟩
  · rw [hc, Bool.true_or]
  · rfl

theorem lowerChar_of_begins {c : Char} (h : beginsNumeral c) : Text.lowerChar c = [c] := by
  have hc : c.isDigit ∨ c = '.' := by simpa [beginsNumeral] using h
  have hl : c.toLower = c := by
    rcases hc with hc | rfl
    · exact Decimal.toLower_of_isDigit hc
    · rfl
  have ha : c.toNat < 128 := by
    rcases hc with hc | rfl
    · have hle : c.toNat ≤ 57 := (Char.isDigit_iff_toNat.mp hc).2
      omega
    · decide
  rw [Text.lowerChar, if_pos ha, hl]

theorem isNumeric_lowercase {w : String} (h : isNumeric w) : isNumeric (Text.lowercase w) := by
  unfold isNumeric Text.lowercase at *
  rw [String.toList_ofList]
  cases hw : w.toList with
  | nil =>
    rw [hw] at h
    cases h
  | cons c s =>
    rw [hw] at h
    have hc : beginsNumeral c := h
    have hs : (c == 'Σ') = false := by
      rw [beq_eq_false_iff_ne]
      rintro rfl
      cases hc
    rw [Text.lowerFrom, hs, if_neg Bool.false_ne_true, lowerChar_of_begins hc]
    exact hc

theorem isNumeric_append {w : String} (h : isNumeric w) (v : String) : isNumeric (w ++ v) := by
  unfold isNumeric at *
  rw [String.toList_append]
  cases hw : w.toList with
  | nil =>
    rw [hw] at h
    cases h
  | cons c s =>
    rw [hw] at h
    exact h

theorem beq_of_isNumeric {w v : String} (h : isNumeric w) (hv : isNumeric v = false) :
    (w == v) = false := by
  rw [beq_eq_false_iff_ne]
  rintro rfl
  rw [h] at hv
  cases hv

theorem lookup_of_isNumeric {names : List (String × Float)} {w : String}
    (hn : ∀ p ∈ names, isNumeric p.1 = false) (h : isNumeric w) : names.lookup w = none := by
  rw [List.lookup_eq_none_iff]
  intro p hp
  rw [bne, beq_of_isNumeric h (hn p hp), Bool.not_false]

theorem unsigned_number_numeral (n : Numeral) :
    Unsigned ((number? (.ofList n.text)).getD 1) := by
  have hn : ∀ p ∈ numberNames, isNumeric p.1 = false := by decide
  rw [number?, n.read?_text,
    lookup_of_isNumeric hn (isNumeric_lowercase (isNumeric_text n)), Option.filter_some]
  cases Duration.isFinite n.value with
  | true => exact n.unsigned_value
  | false => exact show Unsigned 1 by decide

theorem numeral_spec (n : Numeral) :
    fraction? (.ofList n.text) = none ∧
      (.ofList n.text == "and" || .ofList n.text == "&" || .ofList n.text == "of") = false ∧
      .ofList n.text ≠ "same" ∧ Unsigned ((number? (.ofList n.text)).getD 1) := by
  have h := isNumeric_text n
  have hl := isNumeric_lowercase h
  have hn : ∀ p ∈ fractionNames, isNumeric p.1 = false := by decide
  refine ⟨?_, ?_, ne_of_beq_false (beq_of_isNumeric h rfl), unsigned_number_numeral n⟩
  · rw [fraction?, named?, lookup_of_isNumeric hn hl]
    exact lookup_of_isNumeric hn (isNumeric_append hl "s")
  · rw [beq_of_isNumeric h rfl, beq_of_isNumeric h rfl, beq_of_isNumeric h rfl]
    rfl

theorem Quantity.spec (q : Quantity) :
    fraction? q.word = none ∧ (q.word == "and" || q.word == "&" || q.word == "of") = false ∧
      q.word ≠ "same" ∧ Unsigned q.value := by
  cases q with
  | numeral n => exact numeral_spec n
  | name w h => exact name_spec w h

theorem Measure.positive (u : Measure) : Positive u.seconds := by
  obtain ⟨-, -, -, -, hp, -⟩ := unit_spec u.word u.mem
  exact hp

/-- The state between two items. -/
def Tally.resting (total last : Float) : Tally := { total, lastUnit := last }

def Tally.counting (total last n : Float) (joined : Bool) : Tally :=
  { total, lastUnit := last, pending := some n, joined }

namespace Tally

variable (total last n : Float)

theorem step_joint (j : Joint) : (resting total last).step j.word = resting total last := by
  cases j <;> rfl

theorem step_quantity (q : Quantity) :
    (resting total last).step q.word = counting total last (q.value * 1) false := by
  obtain ⟨hf, hj, -⟩ := q.spec
  change (resting total last).between q.word = _
  rw [between, hj, if_neg Bool.false_ne_true, hf]
  rfl

theorem step_and : (counting total last n false).step "and" = counting total last n true := rfl

theorem step_a (joined : Bool) :
    (counting total last n joined).step "a" = counting total last n joined := rfl

theorem step_share (f : Share) :
    (counting total last n true).step f.word = counting total last (n + f.value) true := by
  obtain ⟨hf, -⟩ := fraction_spec f.word f.mem
  change (counting total last n true).afterNumber n f.word = _
  rw [afterNumber, hf]
  rfl

theorem step_measure (joined : Bool) (u : Measure) :
    (counting total last n joined).step u.word =
      resting (total + n * u.seconds) u.seconds := by
  obtain ⟨hf, hj, ha, -⟩ := unit_spec u.word u.mem
  change (counting total last n joined).afterNumber n u.word = _
  rw [afterNumber, hf, hj, ha]
  rfl

theorem step_share_pos (f : Share) (h : 0 < total) :
    (resting total last).step f.word = resting (total + f.value * last) last := by
  obtain ⟨hf, hj, -⟩ := fraction_spec f.word f.mem
  have hp : (decide (total > 0) && (1 : Float) == 1) = true := by
    rw [decide_eq_true h]
    rfl
  change (resting total last).between f.word = _
  rw [between, hj, hf]
  exact if_pos hp

theorem step_share_a (f : Share) (h : ¬ 0 < total) :
    ((resting total last).step f.word).step "a" =
      counting total last (1 * (1 * f.value)) false := by
  obtain ⟨hf, hj, -⟩ := fraction_spec f.word f.mem
  have hp : (decide (total > 0) && (1 : Float) == 1) = false := by
    rw [decide_eq_false h]
    rfl
  have hs : (resting total last).step f.word =
      { resting total last with scale := 1 * f.value } := by
    change (resting total last).between f.word = _
    rw [between, hj, hf]
    exact if_neg (Bool.eq_false_iff.mp hp)
  rw [hs]
  rfl

theorem step_a_resting : (resting total last).step "a" = counting total last 1 false := by
  have hn : (number? "a").getD 1 * 1 = 1 := by decide +kernel
  change counting total last ((number? "a").getD 1 * 1) false = _
  rw [hn]

end Tally

namespace Item

open Tally

variable (total last : Float)

theorem read_plain (n : Quantity) (u : Measure) :
    (plain n u).words.foldl step (resting total last) =
      resting (total + n.value * 1 * u.seconds) u.seconds := by
  rw [words, List.foldl_cons, step_quantity, List.foldl_cons, step_measure, List.foldl_nil]

theorem read_mixed (n : Quantity) (f : Share) (u : Measure) :
    (mixed n f u).words.foldl step (resting total last) =
      resting (total + (n.value * 1 + f.value) * u.seconds) u.seconds := by
  rw [words, List.foldl_cons, step_quantity, List.foldl_cons, step_and, List.foldl_cons, step_a,
    List.foldl_cons, step_share, List.foldl_cons, step_measure, List.foldl_nil]

theorem read_part (f : Share) (u : Measure) (h : ¬ 0 < total) :
    (part f u).words.foldl step (resting total last) =
      resting (total + 1 * (1 * f.value) * u.seconds) u.seconds := by
  rw [words, List.foldl_cons, List.foldl_cons, step_share_a _ _ _ h, List.foldl_cons,
    step_measure, List.foldl_nil]

theorem read_part_pos (f : Share) (u : Measure) (h : 0 < total) :
    (part f u).words.foldl step (resting total last) =
      resting (total + f.value * last + u.seconds) u.seconds := by
  obtain ⟨-, -, -, -, -, hu⟩ := unit_spec u.word u.mem
  rw [words, List.foldl_cons, step_share_pos _ _ _ h, List.foldl_cons, step_a_resting,
    List.foldl_cons, step_measure, List.foldl_nil]
  exact congrArg (fun x => resting (total + f.value * last + x) u.seconds) hu

theorem value_of_read {i : Item} {x : Float} {u : Measure} (hx : Unsigned x)
    (h : i.words.foldl step (resting 0 1) = resting (0 + x) u.seconds) : i.value = x := by
  change (i.words.foldl step (resting 0 1)).finish = x
  rw [h]
  exact hx.zero_add

theorem value_plain (n : Quantity) (u : Measure) :
    (plain n u).value = n.value * 1 * u.seconds := by
  have hn : Unsigned (n.value * 1) := n.spec.2.2.2.mul (by decide)
  exact value_of_read (hn.mul u.positive) (read_plain 0 1 n u)

theorem value_mixed (n : Quantity) (f : Share) (u : Measure) :
    (mixed n f u).value = (n.value * 1 + f.value) * u.seconds := by
  obtain ⟨-, -, -, hf, -⟩ := fraction_spec f.word f.mem
  have hn : Unsigned (n.value * 1) := n.spec.2.2.2.mul (by decide)
  exact value_of_read ((hn.add hf).mul u.positive) (read_mixed 0 1 n f u)

theorem value_part (f : Share) (u : Measure) :
    (part f u).value = 1 * (1 * f.value) * u.seconds := by
  obtain ⟨-, -, -, -, hf⟩ := fraction_spec f.word f.mem
  exact value_of_read (hf.mul u.positive) (read_part 0 1 f u (by decide))

/-- One item leaves the phrase at rest, with its seconds added. -/
theorem read_words (i : Item) :
    i.words.foldl step (resting total last) =
      resting (i.after last total) i.measure.seconds := by
  cases i with
  | plain n u =>
    rw [read_plain, ← value_plain]
    rfl
  | mixed n f u =>
    rw [read_mixed, ← value_mixed]
    rfl
  | part f u =>
    rw [after]
    split
    · next h => exact read_part_pos total last f u h
    · next h =>
      rw [read_part total last f u h, ← value_part]
      rfl

end Item

namespace Phrase

open Tally

theorem read_restWords (rest : List (Option Joint × Item)) (total last : Float) :
    (restWords rest).foldl step (resting total last) =
      let (t, l) := countFrom (total, last) (rest.map Prod.snd)
      resting t l := by
  induction rest generalizing total last with
  | nil => rfl
  | cons head rest ih =>
    obtain ⟨j, i⟩ := head
    have hj : (j.toList.map Joint.word).foldl step (resting total last) = resting total last := by
      cases j with
      | none => rfl
      | some j => exact step_joint total last j
    change ((j.toList.map Joint.word ++ i.words) ++ restWords rest).foldl step _ = _
    rw [List.foldl_append, List.foldl_append, hj, i.read_words, ih]
    rfl

theorem seconds_words (p : Phrase) : seconds p.words = p.total := by
  change ((p.first.words ++ restWords p.rest).foldl step (resting 0 1)).finish = _
  rw [List.foldl_append, p.first.read_words, read_restWords]
  rfl

theorem ne_same_of_mem {i : Item} {w : String} (h : w ∈ i.words) : w ≠ "same" := by
  have hq := fun n : Quantity => n.spec.2.2.1
  have hf := fun f : Share => (fraction_spec f.word f.mem).2.2.1
  have hu := fun u : Measure => (unit_spec u.word u.mem).2.2.2.1
  cases i with
  | plain n u | mixed n f u | part f u =>
    simp only [Item.words, List.mem_cons, List.not_mem_nil, or_false] at h
    grind

theorem contains_same (p : Phrase) : p.words.contains "same" = false := by
  rw [Bool.eq_false_iff]
  intro h
  obtain h | h := List.mem_append.mp (List.contains_iff_mem.mp h)
  · exact ne_same_of_mem h rfl
  · obtain ⟨⟨j, i⟩, -, h⟩ := List.mem_flatMap.mp h
    obtain h | h := List.mem_append.mp h
    · obtain ⟨j, -, h⟩ := List.mem_map.mp h
      cases j <;> exact absurd h (by decide)
    · exact ne_same_of_mem h rfl

theorem sum_append (items : List Item) (i : Item) : sum (items ++ [i]) = sum items + i.value := by
  rw [sum, List.map_append, List.foldl_append]
  rfl

theorem after_eq_of_ordered {p : Phrase} (h : p.Ordered) (before rest : List Item) (last : Float)
    (hp : p.items = before ++ rest) : (countFrom (sum before, last) rest).1 = sum p.items := by
  induction rest generalizing before last with
  | nil =>
    rw [hp, List.append_nil]
    rfl
  | cons i rest ih =>
    have hi : i.after last (sum before) = sum (before ++ [i]) := by
      rw [sum_append]
      cases i with
      | plain n u => rfl
      | mixed n f u => rfl
      | part f u => exact if_neg (h before f u rest hp)
    have hr := ih (before ++ [i]) i.measure.seconds (by rw [hp, List.append_assoc]; rfl)
    rw [← hi] at hr
    exact hr

end Phrase

/-- A phrase takes its items one after the other. Where nothing has been counted before an item
such as `half a minute`, this is the sum of what the items are alone. -/
theorem read_phrase (previous : Option Float) (text : String) (p : Phrase)
    (h : Text.words (Text.lowercase text) = p.words) :
    read previous text = (p.total, some p.total) ∧ (p.Ordered → p.total = sum p.items) := by
  constructor
  · rw [read]
    dsimp only
    rw [h, p.contains_same, if_neg Bool.false_ne_true, p.seconds_words]
  · intro ho
    exact Phrase.after_eq_of_ordered ho [] p.items 1 rfl

def minute : Measure := ⟨"minute", by decide⟩

def minutes : Measure := ⟨"minutes", by decide⟩

def half : Share := ⟨"half", by decide⟩

def oneNumeral : Numeral :=
  ⟨['1'], none, none, List.forall_mem_singleton.mpr rfl, List.forall_mem_nil _, by decide⟩

def oneMinute : Item := .plain (.numeral oneNumeral) minute

def longBreak : Phrase :=
  ⟨oneMinute, [(some .and, .mixed (.name "two" (by decide)) half minutes)]⟩

theorem longBreak_ordered : longBreak.Ordered := by
  intro before f u rest h
  have hm : Item.part f u ∈ longBreak.items := h ▸ by simp
  simp [Phrase.items, longBreak, oneMinute] at hm

theorem read_phrase_longBreak :
    Text.words (Text.lowercase "1 Minute and two and a half minutes") = longBreak.words ∧
      longBreak.Ordered ∧ sum longBreak.items = 210 ∧
      read none "1 Minute and two and a half minutes" = (210, some 210) := by
  have hw : Text.words (Text.lowercase "1 Minute and two and a half minutes") =
      longBreak.words := by
    decide +kernel
  have hs : sum longBreak.items = 210 := by decide +kernel
  obtain ⟨hr, ht⟩ := read_phrase none _ longBreak hw
  rw [ht longBreak_ordered, hs] at hr
  exact ⟨hw, longBreak_ordered, hs, hr⟩

/-- A half after a minute is counted for itself, and its unit is counted again. -/
theorem read_minute_half :
    Text.words (Text.lowercase "1 minute half a minute") =
        (⟨oneMinute, [(none, .part half minute)]⟩ : Phrase).words ∧
      read none "1 minute half a minute" = (150, some 150) ∧
      sum [oneMinute, .part half minute] = 90 ∧
      (read none "1 minute").1 + (read none "half a minute").1 = 90 := by
  decide +kernel

end Showrunner.Duration
