import ScopedRouting.Number.Decimal

/-!
# Number to shortest decimal text

A finite number is written with the fewest significant digits that read back as the same number,
and with the nearest such digits. The notation is positional at every size.
-/
namespace ScopedRouting.Binary64

/-- A decimal number `digits · 10 ^ exponent`. -/
structure DecimalForm where
  digits : Nat
  exponent : Int
deriving DecidableEq

/-- A power of ten above every finite number, and its reciprocal below every positive one. -/
def decimalRange : Nat := 400

/-- How many digits a number has before the point; negative for zeros behind it. -/
def decimalPoint (x : FiniteNumber) : Int :=
  (Nat.toDigits 10
    (x.magnitude * Nat.pow 10 decimalRange / Nat.pow 2 unitExponent)).length - decimalRange

/-- The number in units of `10 ^ exponent`, as a quotient. -/
def inUnits (x : FiniteNumber) (exponent : Int) : Nat × Nat :=
  match exponent with
  | .ofNat e => (x.magnitude, Nat.pow 2 unitExponent * Nat.pow 10 e)
  | .negSucc e => (x.magnitude * Nat.pow 10 (e + 1), Nat.pow 2 unitExponent)

def DecimalForm.readsAs (form : DecimalForm) (x : FiniteNumber) : Bool :=
  ofDecimal x.negative form.digits form.exponent == .finite x

/-- The better of the two multiples of `10 ^ exponent` around the number, if one reads back. -/
def onGrid? (x : FiniteNumber) (exponent : Int) : Option DecimalForm :=
  let (num, den) := inUnits x exponent
  let low : DecimalForm := ⟨num / den, exponent⟩
  let high : DecimalForm := ⟨num / den + 1, exponent⟩
  match low.readsAs x, high.readsAs x with
  | true, true => some (if 2 * (num % den) < den then low else high)
  | true, false => some low
  | false, true => some high
  | false, false => none

/-- The whole decimal expansion, which is finite as the unit is a power of a half. -/
def exactForm (x : FiniteNumber) : DecimalForm :=
  ⟨x.magnitude * Nat.pow 5 unitExponent, -(unitExponent : Int)⟩

/-- The shortest decimal form that reads back. Seventeen digits are enough for every number; the
exact expansion stands behind them. -/
def shortest (x : FiniteNumber) : DecimalForm :=
  let point := decimalPoint x
  ((List.range 17).findSome? fun (n : Nat) => onGrid? x (point - (n + 1))).getD (exactForm x)

/-- Drops zeros at the end of the digits. -/
def DecimalForm.trim (form : DecimalForm) : Nat → DecimalForm
  | 0 => form
  | fuel + 1 =>
    if form.digits % 10 = 0 ∧ form.digits ≠ 0 then
      DecimalForm.trim ⟨form.digits / 10, form.exponent + 1⟩ fuel
    else form

def zeros (n : Nat) : List Char :=
  List.replicate n '0'

/-- Positional notation, without a point if the number is whole. -/
def DecimalForm.write (form : DecimalForm) : List Char :=
  let digits := Nat.toDigits 10 form.digits
  match form.exponent with
  | .ofNat e => digits ++ zeros e
  | .negSucc e =>
    let places := e + 1
    if places < digits.length then
      digits.take (digits.length - places) ++ '.' :: digits.drop (digits.length - places)
    else '0' :: '.' :: zeros (places - digits.length) ++ digits

def writeFinite (x : FiniteNumber) : List Char :=
  let sign := if x.negative then ['-'] else []
  if x.significand = 0 then sign ++ ['0']
  else sign ++ ((shortest x).trim 800).write

/-- The text of a number. -/
def toText : Binary64 → String
  | .nan => "NaN"
  | .infinite true => "-inf"
  | .infinite false => "inf"
  | .finite x => String.ofList (writeFinite x)

end ScopedRouting.Binary64
