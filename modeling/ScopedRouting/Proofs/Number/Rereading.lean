import ScopedRouting.Proofs.Number.Numerals

/-!
# Reading written numbers

The digits that a finite number is written with are chosen so that they read back, and the point and
the zeros around them do not change what they are read as. So every finite number is what is read
from its text. The texts of the infinities are no numerals.
-/
namespace ScopedRouting.Binary64

theorem readsAs_iff (form : DecimalForm) (x : FiniteNumber) :
    form.readsAs x = true ↔ ofDecimal x.negative form.digits form.exponent = .finite x := by
  simp [DecimalForm.readsAs]

theorem readsAs_of_onGrid? {x : FiniteNumber} {exponent : Int} {form : DecimalForm}
    (found : onGrid? x exponent = some form) : form.readsAs x = true := by
  unfold onGrid? at found
  dsimp only at found
  split at found
  · rename_i low high
    rw [← Option.some.inj found]
    split
    · exact low
    · exact high
  · rename_i low _
    exact Option.some.inj found ▸ low
  · rename_i _ high
    exact Option.some.inj found ▸ high
  · cases found

/-- The whole expansion of a number is a quotient with its value. -/
theorem readsAs_exactForm (x : FiniteNumber) : (exactForm x).readsAs x = true := by
  have whole : (exactForm x).exponent.toNat = 0 := by simp [exactForm]
  have places : (-(exactForm x).exponent).toNat = unitExponent := by simp [exactForm]
  have tens (n : Nat) : 10 ^ n = 5 ^ n * 2 ^ n := Nat.mul_pow 5 2 n
  rw [readsAs_iff, ofDecimal_eq, ← ofQuotient_magnitude]
  apply ofQuotient_congr (by positivity) (by decide)
  rw [whole, places, tens unitExponent, Nat.pow_zero, Nat.mul_one, Nat.mul_one, exactForm,
    Nat.pow_eq, Nat.mul_assoc]

theorem readsAs_shortest (x : FiniteNumber) : (shortest x).readsAs x = true := by
  unfold shortest
  dsimp only
  cases found : (List.range 17).findSome? fun (n : Nat) =>
      onGrid? x (decimalPoint x - (n + 1)) with
  | none => exact readsAs_exactForm x
  | some form =>
    obtain ⟨places, _, here⟩ := List.exists_of_findSome?_eq_some found
    exact readsAs_of_onGrid? here

/-- Zeros that are dropped are counted in the exponent. -/
theorem ofDecimal_trim (negative : Bool) (form : DecimalForm) (fuel : Nat) :
    ofDecimal negative (form.trim fuel).digits (form.trim fuel).exponent =
      ofDecimal negative form.digits form.exponent := by
  induction fuel generalizing form with
  | zero => rfl
  | succ fuel ih =>
    rw [DecimalForm.trim]
    split
    · have whole : form.digits / 10 * 10 ^ 1 = form.digits := by omega
      calc _ = ofDecimal negative (form.digits / 10) (form.exponent + (1 : Nat)) := ih _
        _ = ofDecimal negative (form.digits / 10 * 10 ^ 1) form.exponent :=
          (ofDecimal_mul_pow ..).symm
        _ = ofDecimal negative form.digits form.exponent := by rw [whole]
    · rfl

section Places

variable {text : List Char}

theorem isNumeral_followed (digits : IsDigits text) (some_digit : text ≠ []) (n : Nat) :
    IsNumeral (text ++ zeros n) (digitsValue text) n := by
  have numeral := isNumeral_whole (digits.append (isDigits_zeros n)) (by simp [some_digit])
  refine ⟨numeral.begins, fun negative => ?_⟩
  rw [numeral.read, digitsValue_append_zeros, ofDecimal_mul_pow]
  simp

/-- A point among the digits. -/
theorem isNumeral_divided (digits : IsDigits text) {places : Nat} (fewer : places < text.length) :
    IsNumeral (text.take (text.length - places) ++ '.' :: text.drop (text.length - places))
      (digitsValue text) (-places) := by
  have front : IsDigits (text.take (text.length - places)) := fun c member =>
    digits c (List.mem_of_mem_take member)
  have behind : IsDigits (text.drop (text.length - places)) := fun c member =>
    digits c (List.mem_of_mem_drop member)
  have some_left : text.take (text.length - places) ≠ [] := by
    apply List.ne_nil_of_length_pos
    rw [List.length_take]
    omega
  have length : (text.drop (text.length - places)).length = places := by
    rw [List.length_drop]
    omega
  have numeral := isNumeral_point front some_left behind
  rwa [List.take_append_drop, length] at numeral

/-- A point before all the digits, and zeros where there are more places than digits. -/
theorem isNumeral_padded (digits : IsDigits text) {places : Nat} (enough : text.length ≤ places) :
    IsNumeral ('0' :: '.' :: zeros (places - text.length) ++ text) (digitsValue text)
      (-places) := by
  have length : (zeros (places - text.length) ++ text).length = places := by
    rw [List.length_append, zeros, List.length_replicate]
    omega
  have numeral := isNumeral_point (isDigits_zeros 1) (by simp [zeros])
    ((isDigits_zeros (places - text.length)).append digits)
  rwa [digitsValue_zeros_append, digitsValue_zeros_append, length] at numeral

end Places

/-- What is written for a decimal is a numeral for it. -/
theorem isNumeral_write (form : DecimalForm) :
    IsNumeral form.write form.digits form.exponent := by
  obtain ⟨n, exponent⟩ := form
  have digits := isDigits_toDigits n
  have value := digitsValue_toDigits n
  unfold DecimalForm.write
  dsimp only
  cases exponent with
  | ofNat e =>
    have numeral := isNumeral_followed digits Nat.toDigits_ne_nil e
    rwa [value] at numeral
  | negSucc e =>
    dsimp only
    split
    · rename_i fewer
      have numeral := isNumeral_divided digits fewer
      rwa [value] at numeral
    · rename_i enough
      have numeral := isNumeral_padded digits (Nat.le_of_not_lt enough)
      rwa [value] at numeral

/-- Every finite number is read back from its text, the sign of zero included. -/
theorem leading?_toText (x : FiniteNumber) : leading? (toText (.finite x)) = some (.finite x) := by
  have sign : (if x.negative then ['-'] else []) = signText x.negative := rfl
  rw [toText, writeFinite, sign]
  split
  · rename_i nothing
    have numeral := isNumeral_whole (isDigits_zeros 1) (by simp [zeros])
    have value : digitsValue (zeros 1) = 0 := rfl
    have scale : x.scale = 0 := by
      rcases x.canonical with ⟨_, _, denormal | above⟩
      · exact denormal
      · rw [nothing] at above
        exact absurd above (by decide)
    have same : Binary64.finite x = zero x.negative := by
      rw [← ofScaled_finite, nothing, scale, ofScaled_zero]
    exact (numeral.leading? x.negative).trans (by rw [value, same]; rfl)
  · rw [(isNumeral_write _).leading?, ofDecimal_trim, (readsAs_iff _ x).mp (readsAs_shortest x)]

theorem leading?_toText_infinite (negative : Bool) :
    leading? (toText (.infinite negative)) = none := by
  cases negative <;> decide

/-- Decimals are written with digits and a point. -/
theorem char_cases_write (form : DecimalForm) :
    ∀ c ∈ form.write, c.isDigit = true ∨ c = '.' := by
  have digits := isDigits_toDigits form.digits
  intro c member
  unfold DecimalForm.write at member
  dsimp only at member
  split at member
  · exact .inl ((digits.append (isDigits_zeros _)) c member)
  · split at member
    · rcases List.mem_append.mp member with front | behind
      · exact .inl (digits c (List.mem_of_mem_take front))
      · rcases List.mem_cons.mp behind with point | behind
        · exact .inr point
        · exact .inl (digits c (List.mem_of_mem_drop behind))
    · rcases List.mem_append.mp member with front | behind
      · rcases List.mem_cons.mp front with rfl | front
        · exact .inl rfl
        · exact (List.mem_cons.mp front).symm.imp_left (isDigits_zeros _ c)
      · exact .inl (digits c behind)

/-- Finite numbers are written with digits, a point and a sign. -/
theorem char_cases_toText (x : FiniteNumber) :
    ∀ c ∈ (toText (.finite x)).toList, c.isDigit = true ∨ c = '.' ∨ c = '-' := by
  intro c member
  rw [toText, String.toList_ofList] at member
  unfold writeFinite at member
  have signed : ∀ c ∈ (if x.negative then ['-'] else []), c = '-' := by
    cases x.negative <;> simp
  dsimp only at member
  split at member
  · rcases List.mem_append.mp member with sign | zero
    · exact .inr (.inr (signed c sign))
    · rw [List.mem_singleton.mp zero]
      exact .inl rfl
  · rcases List.mem_append.mp member with sign | number
    · exact .inr (.inr (signed c sign))
    · exact (char_cases_write _ c number).imp_right .inl

end ScopedRouting.Binary64
