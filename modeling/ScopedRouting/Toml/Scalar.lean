import ScopedRouting.Number.Decimal
import ScopedRouting.Toml.Basic

/-!
# TOML numbers, words and times

Values that are written without quotes or brackets, each as one token.
-/
namespace ScopedRouting.Toml

/-- Digits with single underscores between them. -/
def isDigitGroups (isDigit : Char → Bool) : List Char → Bool
  | [] => false
  | [c] => isDigit c
  | c :: '_' :: rest => isDigit c && isDigitGroups isDigit rest
  | c :: rest => isDigit c && isDigitGroups isDigit rest

/-- The digits of a decimal integer: no zero in front of others. -/
def isDecimal (digits : List Char) : Bool :=
  isDigitGroups Char.isDigit digits &&
    match digits with
    | '0' :: _ :: _ => false
    | _ => true

def digitValue? (c : Char) : Option Nat :=
  if c.isDigit then some (c.toNat - 0x30)
  else if 'a' ≤ c ∧ c ≤ 'f' then some (c.toNat - 0x57)
  else if 'A' ≤ c ∧ c ≤ 'F' then some (c.toNat - 0x37)
  else none

def isDigitOf (base : Nat) (c : Char) : Bool :=
  (digitValue? c).any (· < base)

def number (base : Nat) (digits : List Char) : Nat :=
  (digits.filterMap digitValue?).foldl (fun n d => n * base + d) 0

/-- A whole number in 64 bits. -/
def bounded? (n : Int) : Option Toml :=
  if -9223372036854775808 ≤ n ∧ n ≤ 9223372036854775807 then some (.integer n) else none

def withBase? (base : Nat) (digits : List Char) : Option Toml :=
  if isDigitGroups (isDigitOf base) digits then bounded? (number base digits) else none

def integer? : List Char → Option Toml
  | '0' :: 'x' :: digits => withBase? 16 digits
  | '0' :: 'o' :: digits => withBase? 8 digits
  | '0' :: 'b' :: digits => withBase? 2 digits
  | text =>
    let (negative, digits) := Binary64.takeSign text
    if isDecimal digits then
      bounded? (if negative then -(number 10 digits : Int) else number 10 digits)
    else none

def isExponentMark (c : Char) : Bool :=
  c == 'e' || c == 'E'

/-- A number with a fraction, an exponent or both. It must not be too large for a number. -/
def float? (text : List Char) : Option Toml :=
  let digits := (Binary64.takeSign text).2
  let mantissa := digits.takeWhile fun c => !isExponentMark c
  let exponent := digits.dropWhile fun c => !isExponentMark c
  let whole := mantissa.takeWhile (· ≠ '.')
  let fraction := mantissa.dropWhile (· ≠ '.')
  let goodFraction := fraction == [] || isDigitGroups Char.isDigit (fraction.drop 1)
  let goodExponent := exponent == [] ||
    isDigitGroups Char.isDigit (Binary64.takeSign (exponent.drop 1)).2
  let value := Binary64.parse? (text.filter (· ≠ '_'))
  if isDecimal whole && goodFraction && goodExponent && !(fraction == [] && exponent == []) &&
      value != some (.infinite false) then some .float
  else none

def word? (text : List Char) : Option Toml :=
  match String.ofList text with
  | "true" => some (.bool true)
  | "false" => some (.bool false)
  | "inf" | "+inf" | "-inf" | "nan" | "+nan" | "-nan" => some .float
  | _ => none

/-- A number of exactly so many digits within bounds. -/
def field? (width low high : Nat) (text : List Char) : Option Nat :=
  let n := number 10 text
  if text.length = width ∧ text.all Char.isDigit ∧ low ≤ n ∧ n ≤ high then some n else none

def daysIn (year month : Nat) : Nat :=
  if month = 2 then
    if year % 4 = 0 ∧ (year % 100 ≠ 0 ∨ year % 400 = 0) then 29 else 28
  else if [4, 6, 9, 11].contains month then 30
  else 31

def isDate (text : List Char) : Bool :=
  match text.splitOn '-' with
  | [year, month, day] => Option.isSome do
    let year ← field? 4 0 9999 year
    let month ← field? 2 1 12 month
    field? 2 1 (daysIn year month) day
  | _ => false

def isClock (text : List Char) : Bool :=
  match text.splitOn ':' with
  | [hour, minute] => (field? 2 0 23 hour).isSome && (field? 2 0 59 minute).isSome
  | _ => false

/-- A time of day with seconds and an optional fraction of them. -/
def isTime (text : List Char) : Bool :=
  let main := text.takeWhile (· ≠ '.')
  let fraction := text.dropWhile (· ≠ '.')
  let goodFraction :=
    fraction == [] || (fraction.drop 1 != [] && (fraction.drop 1).all Char.isDigit)
  goodFraction &&
    match main.splitOn ':' with
    | [hour, minute, second] =>
      (field? 2 0 23 hour).isSome && (field? 2 0 59 minute).isSome &&
        (field? 2 0 60 second).isSome
    | _ => false

/-- A time of day with an optional distance from universal time. -/
def isZonedTime (text : List Char) : Bool :=
  let isZone (c : Char) : Bool := c == 'Z' || c == 'z' || c == '+' || c == '-'
  isTime (text.takeWhile fun c => !isZone c) &&
    match text.dropWhile fun c => !isZone c with
    | [] => true
    | ['Z'] | ['z'] => true
    | '+' :: offset | '-' :: offset => isClock offset
    | _ => false

def isDateTime (text : List Char) : Bool :=
  let date := text.take 10
  match text.drop 10 with
  | [] => isDate date || isTime text
  | 'T' :: time | 't' :: time => (isDate date && isZonedTime time) || isTime text
  | _ => isTime text

/-- The value of a token. -/
def scalar? (text : List Char) : Option Toml :=
  word? text <|> integer? text <|> float? text <|>
    if isDateTime text then some .dateTime else none

/-- Characters of tokens. -/
def isTokenChar (c : Char) : Bool :=
  c.isAlphanum || c == '+' || c == '-' || c == '_' || c == '.' || c == ':'

/-- Reads one token. A date may have its time behind a blank. -/
def readScalar? (text : List Char) : Option (Toml × List Char) :=
  let token := text.takeWhile isTokenChar
  let rest := text.dropWhile isTokenChar
  match isDate token, rest with
  | true, ' ' :: c :: tail =>
    if c.isDigit then
      let time := (c :: tail).takeWhile isTokenChar
      if isZonedTime time then some (.dateTime, (c :: tail).dropWhile isTokenChar) else none
    else some (.dateTime, rest)
  | _, _ => (scalar? token).map (·, rest)

end ScopedRouting.Toml
