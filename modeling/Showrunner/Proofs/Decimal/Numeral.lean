import Showrunner.Decimal.Reader

namespace Showrunner.Decimal

structure Exponent where
  mark : Char
  sign : List Char
  digits : List Char
  mark_eq : mark = 'e' ∨ mark = 'E'
  sign_eq : sign = [] ∨ sign = ['+'] ∨ sign = ['-']
  digits_eq : isDigits digits

/-- A number as it is written: digits, a point with digits, and an exponent. -/
structure Numeral where
  whole : List Char
  fraction : Option (List Char)
  exponent : Option Exponent
  whole_digits : ∀ c ∈ whole, c.isDigit
  fraction_digits : ∀ c ∈ fraction.getD [], c.isDigit
  nonempty : whole ++ fraction.getD [] ≠ []

def Exponent.text (e : Exponent) : List Char := e.mark :: (e.sign ++ e.digits)

def Exponent.value (e : Exponent) : Int :=
  if e.sign = ['-'] then -natOf e.digits else natOf e.digits

namespace Numeral

def exponentText (n : Numeral) : List Char := n.exponent.elim [] Exponent.text

def body (n : Numeral) : List Char := n.whole ++ n.fraction.elim [] ('.' :: ·)

def text (n : Numeral) : List Char := n.body ++ n.exponentText

def value (n : Numeral) : Float :=
  scaled (natOf (n.whole ++ n.fraction.getD []))
    (n.exponent.elim 0 Exponent.value - (n.fraction.getD []).length)

end Numeral

theorem toLower_of_isDigit {c : Char} (h : c.isDigit) : c.toLower = c := by
  unfold Char.toLower
  split
  · next hu =>
    have hle : c.toNat ≤ 57 := (Char.isDigit_iff_toNat.mp h).2
    have hge : 65 ≤ c.toNat := UInt32.le_iff_toNat_le.mp hu.1
    omega
  · rfl

theorem takeWhile_append {p : Char → Bool} {ds rest : List Char} (hd : ∀ c ∈ ds, p c)
    (hr : ∀ c ∈ rest.head?, p c = false) : (ds ++ rest).takeWhile p = ds := by
  rw [List.takeWhile_append_of_pos hd]
  cases rest with
  | nil => simp
  | cons c cs => simp [hr c rfl]

theorem dropWhile_append {p : Char → Bool} {ds rest : List Char} (hd : ∀ c ∈ ds, p c)
    (hr : ∀ c ∈ rest.head?, p c = false) : (ds ++ rest).dropWhile p = rest := by
  rw [List.dropWhile_append_of_pos hd]
  cases rest with
  | nil => rfl
  | cons c cs => simp [hr c rfl]

namespace Numeral

variable (n : Numeral)

theorem text_eq_cons : ∃ c s, n.text = c :: s ∧
    (c.isDigit ∨ c = '.' ∧ ∃ d r, s = d :: r ∧ d.isDigit) := by
  obtain ⟨whole, fraction, exponent, hw, hf, hn⟩ := n
  cases whole with
  | cons c s => exact ⟨c, _, rfl, .inl (hw c List.mem_cons_self)⟩
  | nil =>
    cases fraction with
    | none => exact absurd rfl hn
    | some ds =>
      cases ds with
      | nil => exact absurd rfl hn
      | cons d r => exact ⟨'.', _, rfl, .inr ⟨rfl, d, _, rfl, hf d List.mem_cons_self⟩⟩

theorem exponent?_text : exponent? n.exponentText = some (n.exponent.elim 0 Exponent.value) := by
  obtain ⟨_, _, exponent, _, _, _⟩ := n
  cases exponent with
  | none => rfl
  | some e =>
    obtain ⟨mark, sign, digits, hm, hs, hd⟩ := e
    have hl : mark.toLower = 'e' := by rcases hm with rfl | rfl <;> rfl
    rcases hs with rfl | rfl | rfl
    · cases digits with
      | nil => cases hd
      | cons d ds =>
        have hdd : d.isDigit := by
          simp only [isDigits, List.all_cons, Bool.and_eq_true] at hd
          exact hd.2.1
        have hm : d ≠ '-' := by rintro rfl; cases hdd
        have hp : d ≠ '+' := by rintro rfl; cases hdd
        simp [exponentText, Exponent.text, Exponent.value, exponent?, hl, hd, hm, hp]
    · simp [exponentText, Exponent.text, Exponent.value, exponent?, hl, hd]
    · simp [exponentText, Exponent.text, Exponent.value, exponent?, hl, hd]

theorem head?_exponentText {c : Char} (h : c ∈ n.exponentText.head?) : c = 'e' ∨ c = 'E' := by
  obtain ⟨_, _, exponent, _, _, _⟩ := n
  cases exponent with
  | none => cases h
  | some e =>
    cases h
    exact e.mark_eq

theorem unsigned?_text : unsigned? n.text = some n.value := by
  have hx := n.exponent?_text
  have hh := fun c => n.head?_exponentText (c := c)
  have he : ∀ c ∈ n.exponentText.head?, c.isDigit = false := fun c hc => by
    rcases hh c hc with rfl | rfl <;> rfl
  unfold text body value
  generalize n.exponentText = exponent at *
  generalize n.exponent.elim 0 Exponent.value = shift at *
  obtain ⟨whole, fraction, _, hw, hf, hn⟩ := n
  cases fraction with
  | none =>
    have hne : whole ≠ [] := by simpa using hn
    unfold unsigned?
    simp only [Option.elim_none, List.append_nil, takeWhile_append hw he, dropWhile_append hw he]
    cases exponent with
    | nil => simp [hx, hne]
    | cons c r =>
      have hc : c ≠ '.' := by
        rintro rfl
        rcases hh '.' rfl with h | h <;> cases h
      simp [hx, hne, hc]
  | some ds =>
    have hp : ∀ c ∈ ('.' :: (ds ++ exponent)).head?, c.isDigit = false := fun c hc => by
      cases hc
      rfl
    have hds : ∀ c ∈ ds, c.isDigit := hf
    have hne : ¬ (whole = [] ∧ ds = []) := by simpa using hn
    unfold unsigned?
    simp [takeWhile_append hw hp, dropWhile_append hw hp, takeWhile_append hds he,
      dropWhile_append hds he, hx, hne]

/-- The reader takes a numeral for the number that it spells. -/
theorem read?_text : read? (.ofList n.text) = some n.value := by
  obtain ⟨c, s, ht, hc⟩ := n.text_eq_cons
  have hu := n.unsigned?_text
  rw [ht] at hu ⊢
  have hl : ∀ d, d.isDigit = false → d ≠ '.' → c ≠ d := by
    rintro d hd hp rfl
    rcases hc with hc | ⟨hc, _⟩
    · rw [hd] at hc
      cases hc
    · exact hp hc
  have hi : c.toLower = c := by
    rcases hc with hc | ⟨rfl, _⟩
    · exact toLower_of_isDigit hc
    · rfl
  unfold read? magnitude?
  rw [String.toList_ofList]
  simp [hl '-' rfl (by decide), hl '+' rfl (by decide), hl 'i' rfl (by decide),
    hl 'n' rfl (by decide), hi, hu]

end Numeral
end Showrunner.Decimal
