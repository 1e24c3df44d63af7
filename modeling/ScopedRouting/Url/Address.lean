/-!
# Numeric host addresses

Which texts are addresses of version 4 and 6. A name whose last label is a number must be a
version 4 address: up to four numbers, decimal, octal behind `0` or hexadecimal behind `0x`, the
last of which fills all bytes that are left. A version 6 address is eight groups of hexadecimal
digits, with at most one run of zero groups left out, and possibly a dotted address at its end.
-/
namespace ScopedRouting.Url.Address

def hexValue? (c : Char) : Option Nat :=
  if c.isDigit then some (c.toNat - 0x30)
  else if 'a' ≤ c ∧ c ≤ 'f' then some (c.toNat - 0x57)
  else if 'A' ≤ c ∧ c ≤ 'F' then some (c.toNat - 0x37)
  else none

/-- Reads digits of a base up to sixteen, no digits as zero. -/
def readNumber? (base : Nat) (digits : List Char) : Option Nat :=
  digits.foldlM (fun n c => do
    let d ← hexValue? c
    if d < base then some (n * base + d) else none) 0

/-- One number of a version 4 address. -/
def readPart? : List Char → Option Nat
  | [] => none
  | '0' :: 'x' :: digits => readNumber? 16 digits
  | '0' :: 'X' :: digits => readNumber? 16 digits
  | '0' :: c :: digits => readNumber? 8 (c :: digits)
  | digits => readNumber? 10 digits

/-- The labels of a name, an empty one at its end left out. -/
def labels (name : List Char) : List (List Char) :=
  let all := name.splitOn '.'
  if all.getLast? = some [] then all.dropLast else all

/-- Whether the last label of a name is a number, so that the name must be an address. -/
def endsInNumber (name : List Char) : Bool :=
  match (labels name).getLast? with
  | none => false
  | some last => (last != [] && last.all Char.isDigit) || (readPart? last).isSome

def isVersion4 (name : List Char) : Bool :=
  let parts := labels name
  match parts.mapM readPart? with
  | none => false
  | some numbers =>
    numbers.length ≤ 4 &&
      match numbers.reverse with
      | [] => false
      | last :: others => others.all (· < 256) && last < Nat.pow 256 (5 - numbers.length)

/-- A decimal number below 256 without a zero in front. -/
def isDottedPart (digits : List Char) : Bool :=
  digits.all Char.isDigit &&
    match digits with
    | [] => false
    | '0' :: _ :: _ => false
    | digits => digits.length ≤ 3 && (readNumber? 10 digits).any (· < 256)

def isGroup (digits : List Char) : Bool :=
  1 ≤ digits.length && digits.length ≤ 4 && digits.all fun c => (hexValue? c).isSome

/-- How many groups a list of parts stands for, none if one of them is no group. Only where
`dotted` holds may the last part be a dotted address, which stands for two groups. -/
def groupCount? (dotted : Bool) : List (List Char) → Option Nat
  | [] => some 0
  | [last] =>
    if isGroup last then some 1
    else if dotted && (last.splitOn '.').length == 4 && (last.splitOn '.').all isDottedPart then
      some 2
    else none
  | part :: rest =>
    if isGroup part then (groupCount? dotted rest).map (· + 1) else none

/-- The parts of one side of a run of zero groups. -/
def sideParts (text : List Char) : List (List Char) :=
  if text = [] then [] else text.splitOn ':'

/-- Splits a text at its first double colon. -/
def splitDouble : List Char → Option (List Char × List Char)
  | ':' :: ':' :: rest => some ([], rest)
  | c :: rest => (splitDouble rest).map fun r => (c :: r.1, r.2)
  | [] => none

def isVersion6 (text : List Char) : Bool :=
  match splitDouble text with
  | none => groupCount? true (sideParts text) == some 8
  | some (left, right) =>
    match groupCount? false (sideParts left), groupCount? true (sideParts right) with
    | some a, some b => a + b ≤ 7
    | _, _ => false

end ScopedRouting.Url.Address
