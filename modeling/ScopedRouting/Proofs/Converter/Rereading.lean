import ScopedRouting.Proofs.Number.Rereading
import ScopedRouting.Proofs.Template.Segments

/-!
# Reading converted values again

Whatever token a value is read from, the token that is written for it is read as this value: texts
are written encoded, finite numbers with digits that read back, truth values as their words. Only an
infinite number is written as a word that no number begins with.
-/
namespace ScopedRouting

def Value.isInfinite : Value → Bool
  | .number (.infinite _) => true
  | _ => false

namespace Converter

/-- Whether a converter takes back the values that it reads, and no infinite one: what it writes for
a finite value is accepted and read as the value. -/
def TakesBackFinite (converter : Converter) : Prop :=
  ∀ token value, converter.read? token = some value →
    (converter.accepts (converter.write value) = true ↔ value.isInfinite = false) ∧
      (converter.read? (converter.write value) = some value ↔ value.isInfinite = false)

theorem takesBackFinite_text : text.TakesBackFinite := by
  intro token value read
  obtain rfl := Option.some.inj read
  simp [text, Value.toText, Value.isInfinite]

theorem takesBackFinite_number : number.TakesBackFinite := by
  intro token value read
  obtain ⟨n, leads, rfl⟩ := Option.map_eq_some_iff.mp read
  cases n with
  | nan => exact absurd leads (Binary64.leading?_ne_nan token)
  | infinite negative =>
    simp [number, Value.toText, Value.isInfinite, Binary64.leading?_toText_infinite]
  | finite x => simp [number, Value.toText, Value.isInfinite, Binary64.leading?_toText]

/-- Two words that are equal are both read as true, so that false is never written as the word for
true. -/
theorem takesBackFinite_boolean (trueWord falseWord : String) :
    (boolean trueWord falseWord).TakesBackFinite := by
  intro token value read
  simp only [boolean] at read
  split at read
  · obtain rfl := Option.some.inj read
    simp [boolean, isTrue, Value.isInfinite]
  · rename_i other
    split at read
    · rename_i same
      obtain rfl := Option.some.inj read
      have apart : falseWord ≠ trueWord := fun equal => other (same.trans equal)
      simp [boolean, isTrue, Value.isInfinite, apart]
    · cases read

end Converter

/-- Which values the standard converters take back. A value that is read from any token is written
as a token that the same converter accepts, and reads as the same value, exactly if it is no
infinite number. -/
theorem converters_take_back_finite {indicator : Char} {name : String} {args : Template.Args}
    {converter : Converter}
    (made : ConverterFactory.standard.create indicator name args = .ok (some converter) ∨
      converter = ConverterFactory.standard.fallback)
    {token : String} {value : Value} (read : converter.read? token = some value) :
    (converter.accepts (converter.write value) = true ↔ value.isInfinite = false) ∧
      (converter.read? (converter.write value) = some value ↔ value.isInfinite = false) := by
  have takes : converter.TakesBackFinite := by
    rcases made with created | rfl
    · rcases Template.Dialect.create_standard_cases created with
        rfl | rfl | ⟨trueWord, falseWord, rfl⟩
      · exact Converter.takesBackFinite_text
      · exact Converter.takesBackFinite_number
      · exact Converter.takesBackFinite_boolean trueWord falseWord
    · exact Converter.takesBackFinite_text
  exact takes token value read

theorem converters_take_back_finite_length :
    let value : Value := .number (.ofDecimal true 25 (-3))
    Converter.number.read? "-2.50e-2px" = some value ∧ Converter.number.write value = "-0.025" ∧
      Converter.number.accepts "-0.025" = true ∧
      Converter.number.read? "-0.025" = some value := by
  intro value
  have read : Converter.number.read? "-2.50e-2px" = some value := by decide +kernel
  have written : Converter.number.write value = "-0.025" := by decide +kernel
  have finite : value.isInfinite = false := by decide +kernel
  have created : ConverterFactory.standard.create '+' "length" .absent = .ok (some .number) := rfl
  obtain ⟨accepted, again⟩ := converters_take_back_finite (.inl created) read
  rw [written] at accepted again
  exact ⟨read, written, accepted.mpr finite, again.mpr finite⟩

/-- Infinite numbers are read, from their word or beyond the largest number, but the word that is
written for them is no number. -/
theorem infinite_number_not_taken_back :
    ConverterFactory.standard.create '+' "length" .absent = .ok (some .number) ∧
      (∀ token ∈ ["Infinity", "1e999"],
        Converter.number.read? token = some (.number (.infinite false))) ∧
      Converter.number.write (.number (.infinite false)) = "inf" ∧
      Converter.number.accepts "inf" = false ∧ Converter.number.read? "inf" = none :=
  ⟨rfl, by decide, rfl, by decide, by decide⟩

end ScopedRouting
