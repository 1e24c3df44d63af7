/-!
# Binary64 numbers

The numbers of the 64-bit binary interchange format, held exactly: a finite number is a whole
multiple of the least positive one. Rounding takes a quotient of naturals in that unit to the
nearest number, to the one with even significand in a tie, and to infinity beyond the largest.
Only what the router needs is here: no arithmetic, one kind of not-a-number.
-/
namespace ScopedRouting

/-- A finite number `±significand · 2 ^ scale`, counted in the least positive number `2 ^ -1074`.
Every value but zero has exactly one such form of either sign. -/
structure FiniteNumber where
  negative : Bool
  significand : Nat
  scale : Nat
  canonical : significand < Nat.pow 2 53 ∧ scale ≤ 2045 ∧
    (scale = 0 ∨ Nat.pow 2 52 ≤ significand)
deriving DecidableEq

inductive Binary64 where
  | nan
  | infinite (negative : Bool)
  | finite (value : FiniteNumber)
deriving DecidableEq

namespace FiniteNumber

/-- Distance from zero in units of `2 ^ -1074`. -/
def magnitude (x : FiniteNumber) : Nat :=
  x.significand * Nat.pow 2 x.scale

def toInt (x : FiniteNumber) : Int :=
  if x.negative then -(x.magnitude : Int) else x.magnitude

end FiniteNumber

namespace Binary64

/-- Exponent of two between the unit of `FiniteNumber` and one. -/
def unitExponent : Nat := 1074

def zero (negative : Bool) : Binary64 :=
  .finite ⟨negative, 0, 0, by decide⟩

/-- The finite number with this significand and scale, or infinity if it is out of range. -/
def ofScaled (negative : Bool) (significand scale : Nat) : Binary64 :=
  if h : significand < Nat.pow 2 53 ∧ scale ≤ 2045 ∧
      (scale = 0 ∨ Nat.pow 2 52 ≤ significand) then
    .finite ⟨negative, significand, scale, h⟩
  else .infinite negative

/-- The natural number nearest to a quotient, the even one of two. -/
def roundQuotient (num den : Nat) : Nat :=
  let q := num / den
  let r := num % den
  if den < 2 * r ∨ (2 * r = den ∧ q % 2 = 1) then q + 1 else q

/-- The scale at which a quotient has 53 binary digits, zero if it has fewer. -/
def scaleOf (num den : Nat) : Nat :=
  (num / den).log2 - 52

/-- The number nearest to `num / den` units. -/
def ofQuotient (negative : Bool) (num den : Nat) : Binary64 :=
  let scale := scaleOf num den
  let significand := roundQuotient num (den * Nat.pow 2 scale)
  if significand = Nat.pow 2 53 then ofScaled negative (Nat.pow 2 52) (scale + 1)
  else ofScaled negative significand scale

/-- The number nearest to an integer. -/
def ofInt (n : Int) : Binary64 :=
  ofQuotient (n < 0) (n.natAbs * Nat.pow 2 unitExponent) 1

/-- The largest finite number of either sign. -/
def largest (negative : Bool) : Binary64 :=
  .finite ⟨negative, Nat.pow 2 53 - 1, 2045, by decide⟩

def isZero : Binary64 → Bool
  | .finite x => x.significand == 0
  | _ => false

/-- Numeric order. Both zeros are equal, and not-a-number is below and above nothing. -/
def le : Binary64 → Binary64 → Bool
  | .nan, _ => false
  | _, .nan => false
  | .infinite true, _ => true
  | _, .infinite false => true
  | .infinite false, _ => false
  | _, .infinite true => false
  | .finite x, .finite y => x.toInt ≤ y.toInt

end Binary64

end ScopedRouting
