import ScopedRouting.Number.Binary64
import ScopedRouting.Text.Blank
import ScopedRouting.Unicode.DecimalDigit

/-!
# Decimal text to number

A decimal numeral is digits with an optional point and an optional exponent, after an optional
sign. It is read to the nearest number. Words stand for the infinities and not-a-number.

A token may begin with a number and go on with other text. Its numeric part is found with digits
of every script, and then read with ASCII digits only.
-/
namespace ScopedRouting.Binary64

/-- The number nearest to `±digits · 10 ^ exponent`. Exponents far out of range are settled
without a power of ten. -/
def ofDecimal (negative : Bool) (digits : Nat) (exponent : Int) : Binary64 :=
  if digits = 0 then zero negative
  else if 400 < exponent then .infinite negative
  else if exponent + digits.log2 + 1 < -400 then zero negative
  else match exponent with
    | .ofNat e => ofQuotient negative (digits * Nat.pow 10 e * Nat.pow 2 unitExponent) 1
    | .negSucc e => ofQuotient negative (digits * Nat.pow 2 unitExponent) (Nat.pow 10 (e + 1))

/-- Value of a run of ASCII digits. -/
def digitsValue (digits : List Char) : Nat :=
  digits.foldl (fun n c => n * 10 + (c.toNat - 0x30)) 0

/-- A sign, and the text after it. Text without a sign is positive. -/
def takeSign : List Char → Bool × List Char
  | '-' :: rest => (true, rest)
  | '+' :: rest => (false, rest)
  | rest => (false, rest)

/-- Reads the exponent of a numeral, which is nothing at all or must be complete. -/
def readExponent? : List Char → Option Int
  | [] => some 0
  | e :: rest =>
    let (negative, digits) := takeSign rest
    if (e = 'e' ∨ e = 'E') ∧ digits ≠ [] ∧ digits.all Char.isDigit then
      some (if negative then -(digitsValue digits : Int) else digitsValue digits)
    else none

/-- Splits off the fraction digits behind a point. -/
def takeFraction : List Char → List Char × List Char
  | '.' :: rest => (rest.takeWhile Char.isDigit, rest.dropWhile Char.isDigit)
  | rest => ([], rest)

/-- Reads a numeral without a sign. One digit before or behind the point is enough. -/
def readNumeral? (negative : Bool) (text : List Char) : Option Binary64 :=
  let whole := text.takeWhile Char.isDigit
  let (fraction, rest) := takeFraction (text.dropWhile Char.isDigit)
  if whole ++ fraction = [] then none
  else (readExponent? rest).map fun exponent =>
    ofDecimal negative (digitsValue (whole ++ fraction)) (exponent - fraction.length)

/-- Reads a whole text as a number. The words are `inf`, `infinity` and `nan` in any case. -/
def parse? (text : List Char) : Option Binary64 :=
  let (negative, rest) := takeSign text
  let word := String.ofList (rest.map Char.toLower)
  if word = "inf" ∨ word = "infinity" then some (.infinite negative)
  else if word = "nan" then some .nan
  else readNumeral? negative rest

/-- The digits, point and exponent at the start of a text, with digits of every script. An
exponent mark without digits is no part of it. -/
def numericPart (text : List Char) : List Char :=
  let isDigit := Unicode.isDecimalDigit
  let whole := text.takeWhile isDigit
  let rest := text.dropWhile isDigit
  let (mantissa, rest) :=
    match whole, rest with
    | [], '.' :: rest =>
      if rest.takeWhile isDigit = [] then ([], text)
      else ('.' :: rest.takeWhile isDigit, rest.dropWhile isDigit)
    | _ :: _, '.' :: rest => (whole ++ '.' :: rest.takeWhile isDigit, rest.dropWhile isDigit)
    | _, _ => (whole, rest)
  if mantissa = [] then []
  else match rest with
    | [] => mantissa
    | e :: tail =>
      let sign := (tail.take 1).filter fun c => c == '+' || c == '-'
      let digits := (tail.drop sign.length).takeWhile isDigit
      if (e = 'e' ∨ e = 'E') ∧ digits ≠ [] then mantissa ++ e :: sign ++ digits else mantissa

/-- The number that a token begins with, blanks at the start skipped. Besides numerals the word
`Infinity` counts, with an optional sign. -/
def leading? (token : String) : Option Binary64 :=
  let (negative, rest) := takeSign (Blank.trimStart token.toList)
  if "Infinity".toList.isPrefixOf rest then some (.infinite negative)
  else readNumeral? negative (numericPart rest)

end ScopedRouting.Binary64
