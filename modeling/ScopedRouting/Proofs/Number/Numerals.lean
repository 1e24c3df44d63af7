import Mathlib.Data.List.TakeWhile
import ScopedRouting.Proofs.Number.Rounding
import ScopedRouting.Proofs.Text.Encoding

/-!
# Reading numerals

A numeral of ASCII digits, with or without a point, is numeric as a whole, and is read as the
decimal that its digits stand for. A sign before it makes it negative and nothing else. No token is
read as not-a-number.
-/
namespace ScopedRouting.Binary64

/-- Digits as they are written, of ASCII only. -/
def IsDigits (text : List Char) : Prop :=
  ∀ c ∈ text, c.isDigit = true

theorem IsDigits.append {a b : List Char} (left : IsDigits a) (right : IsDigits b) :
    IsDigits (a ++ b) := fun c member =>
  (List.mem_append.mp member).elim (left c) (right c)

theorem isDigits_toDigits (n : Nat) : IsDigits (Nat.toDigits 10 n) := fun _ =>
  Nat.isDigit_of_mem_toDigits (by decide) (by decide)

theorem isDigits_zeros (n : Nat) : IsDigits (zeros n) := by
  intro c member
  rw [List.eq_of_mem_replicate member]
  rfl

theorem digitsValue_eq (digits : List Char) :
    digitsValue digits = Nat.ofDigitChars 10 digits 0 := by
  simp [digitsValue, Nat.ofDigitChars_eq_foldl, Nat.mul_comm]

theorem digitsValue_toDigits (n : Nat) : digitsValue (Nat.toDigits 10 n) = n := by
  rw [digitsValue_eq, Nat.ofDigitChars_ten_toDigits]

theorem digitsValue_append_zeros (digits : List Char) (n : Nat) :
    digitsValue (digits ++ zeros n) = digitsValue digits * 10 ^ n := by
  rw [digitsValue_eq, digitsValue_eq, Nat.ofDigitChars_append, zeros,
    Nat.ofDigitChars_replicate_zero, Nat.mul_comm]

theorem digitsValue_zeros_append (n : Nat) (digits : List Char) :
    digitsValue (zeros n ++ digits) = digitsValue digits := by
  rw [digitsValue_eq, digitsValue_eq, Nat.ofDigitChars_append, zeros,
    Nat.ofDigitChars_replicate_zero, Nat.mul_zero]

/-- ASCII digits are digits of a script, no blanks and no signs. -/
theorem digit_spec {c : Char} (digit : c.isDigit = true) :
    Unicode.isDecimalDigit c = true ∧ Blank.isBlank c = false ∧ c ≠ '-' ∧ c ≠ '+' ∧ c ≠ 'I' := by
  have each : ∀ c : Char, c.toNat < 0x80 → c.isDigit = true →
      Unicode.isDecimalDigit c = true ∧ Blank.isBlank c = false ∧ c ≠ '-' ∧ c ≠ '+' ∧ c ≠ 'I' :=
    forall_ascii (by decide +kernel)
  have ascii : c.toNat < 0x80 := by
    have nine : '9'.toNat = 0x39 := rfl
    have bounds := Char.isDigit_iff_toNat.mp digit
    omega
  exact each c ascii digit

section Parts

variable {isDigit : Char → Bool} {whole fraction : List Char}

theorem takeWhile_point (point : isDigit '.' = false) (digits : ∀ c ∈ whole, isDigit c = true) :
    (whole ++ '.' :: fraction).takeWhile isDigit = whole := by
  rw [List.takeWhile_append_of_pos digits, List.takeWhile_cons_of_neg (by simp [point]),
    List.append_nil]

theorem dropWhile_point (point : isDigit '.' = false) (digits : ∀ c ∈ whole, isDigit c = true) :
    (whole ++ '.' :: fraction).dropWhile isDigit = '.' :: fraction := by
  rw [List.dropWhile_append_of_pos digits, List.dropWhile_cons_of_neg (by simp [point])]

end Parts

variable {whole fraction : List Char}

theorem IsDigits.decimal (digits : IsDigits whole) :
    ∀ c ∈ whole, Unicode.isDecimalDigit c = true := fun c member =>
  (digit_spec (digits c member)).1

/-- Digits are numeric as a whole. -/
theorem numericPart_whole (digits : IsDigits whole) : numericPart whole = whole := by
  simp only [numericPart, List.takeWhile_eq_self_iff.mpr digits.decimal,
    List.dropWhile_eq_nil_iff.mpr digits.decimal]
  cases whole <;> simp

theorem numericPart_point (digits : IsDigits whole) (some_left : whole ≠ [])
    (behind : IsDigits fraction) :
    numericPart (whole ++ '.' :: fraction) = whole ++ '.' :: fraction := by
  have point : Unicode.isDecimalDigit '.' = false := by decide
  simp only [numericPart, takeWhile_point point digits.decimal,
    dropWhile_point point digits.decimal]
  obtain ⟨first, rest, rfl⟩ := List.exists_cons_of_ne_nil some_left
  simp [List.takeWhile_eq_self_iff.mpr behind.decimal, List.dropWhile_eq_nil_iff.mpr behind.decimal]

/-- A numeral without a point is a whole number. -/
theorem readNumeral?_whole (digits : IsDigits whole) (some_left : whole ≠ []) (negative : Bool) :
    readNumeral? negative whole = some (ofDecimal negative (digitsValue whole) 0) := by
  simp [readNumeral?, List.takeWhile_eq_self_iff.mpr digits, List.dropWhile_eq_nil_iff.mpr digits,
    takeFraction, readExponent?, some_left]

/-- The digits behind a point count down the exponent. -/
theorem readNumeral?_point (digits : IsDigits whole) (some_left : whole ≠ [])
    (behind : IsDigits fraction) (negative : Bool) :
    readNumeral? negative (whole ++ '.' :: fraction) =
      some (ofDecimal negative (digitsValue (whole ++ fraction)) (-fraction.length)) := by
  have point : Char.isDigit '.' = false := by decide
  simp [readNumeral?, takeWhile_point point digits, dropWhile_point point digits, takeFraction,
    List.takeWhile_eq_self_iff.mpr behind, List.dropWhile_eq_nil_iff.mpr behind, readExponent?,
    some_left]

/-- What is written before a negative number. -/
def signText (negative : Bool) : List Char :=
  if negative then ['-'] else []

/-- A token that begins with a digit behind its sign is read as the numeral at its start. -/
theorem leading?_of_digit {first : Char} (digit : first.isDigit = true) (rest : List Char)
    (negative : Bool) :
    leading? (String.ofList (signText negative ++ first :: rest)) =
      readNumeral? negative (numericPart (first :: rest)) := by
  obtain ⟨_, visible, minus, plus, word⟩ := digit_spec digit
  have sign : takeSign (Blank.trimStart (signText negative ++ first :: rest)) =
      (negative, first :: rest) := by
    cases negative with
    | false => simp [signText, Blank.trimStart, visible, takeSign, minus, plus]
    | true =>
      have dash : Blank.isBlank '-' = false := by decide
      simp [signText, Blank.trimStart, dash, takeSign]
  have other : "Infinity".toList.isPrefixOf (first :: rest) = false := by
    simp [List.isPrefixOf, Ne.symm word]
  simp only [leading?, String.toList_ofList, sign, other, if_neg Bool.false_ne_true]

/-- Whether a text begins with a digit and is read as a decimal. -/
structure IsNumeral (text : List Char) (digits : Nat) (exponent : Int) : Prop where
  begins : ∃ first rest, text = first :: rest ∧ first.isDigit = true
  read : ∀ negative,
    readNumeral? negative (numericPart text) = some (ofDecimal negative digits exponent)

theorem isNumeral_whole (digits : IsDigits whole) (some_left : whole ≠ []) :
    IsNumeral whole (digitsValue whole) 0 := by
  obtain ⟨first, rest, rfl⟩ := List.exists_cons_of_ne_nil some_left
  refine ⟨⟨first, rest, rfl, digits first List.mem_cons_self⟩, fun negative => ?_⟩
  rw [numericPart_whole digits, readNumeral?_whole digits some_left]

theorem isNumeral_point (digits : IsDigits whole) (some_left : whole ≠ [])
    (behind : IsDigits fraction) :
    IsNumeral (whole ++ '.' :: fraction) (digitsValue (whole ++ fraction)) (-fraction.length) := by
  obtain ⟨first, rest, rfl⟩ := List.exists_cons_of_ne_nil some_left
  refine ⟨⟨first, rest ++ '.' :: fraction, rfl, digits first List.mem_cons_self⟩,
    fun negative => ?_⟩
  rw [numericPart_point digits some_left behind, readNumeral?_point digits some_left behind]

/-- A numeral behind its sign is read as a token. -/
theorem IsNumeral.leading? {text : List Char} {digits : Nat} {exponent : Int}
    (numeral : IsNumeral text digits exponent) (negative : Bool) :
    leading? (String.ofList (signText negative ++ text)) =
      some (ofDecimal negative digits exponent) := by
  obtain ⟨first, rest, rfl, digit⟩ := numeral.begins
  rw [leading?_of_digit digit, numeral.read]

theorem ofScaled_ne_nan (negative : Bool) (significand scale : Nat) :
    ofScaled negative significand scale ≠ .nan := by
  unfold ofScaled
  split <;> simp

theorem ofDecimal_ne_nan (negative : Bool) (digits : Nat) (exponent : Int) :
    ofDecimal negative digits exponent ≠ .nan := by
  rw [ofDecimal_eq]
  unfold ofQuotient
  dsimp only
  split <;> exact ofScaled_ne_nan _ _ _

theorem leading?_ne_nan (token : String) : leading? token ≠ some .nan := by
  unfold leading? readNumeral?
  dsimp only
  split
  · simp
  · split
    · simp
    · simp [ofDecimal_ne_nan]

end ScopedRouting.Binary64
