/-!
# Punycode

Reading the ASCII form of a label of an international host name (RFC 3492): the ASCII characters
of the label, then the places and numbers of the others as variable-length differences.
-/
namespace ScopedRouting.Url.Punycode

def digitValue? (c : Char) : Option Nat :=
  if 'a' ≤ c ∧ c ≤ 'z' then some (c.toNat - 0x61)
  else if 'A' ≤ c ∧ c ≤ 'Z' then some (c.toNat - 0x41)
  else if c.isDigit then some (c.toNat - 0x30 + 26)
  else none

/-- The least digit that goes on at a place of a number. -/
def threshold (place bias : Nat) : Nat :=
  min 26 (max 1 (place - bias))

def shrink (delta steps : Nat) : Nat × Nat :=
  if 455 < delta then shrink (delta / 35) (steps + 36) else (delta, steps)
termination_by delta
decreasing_by exact Nat.div_lt_self (by omega) (by omega)

/-- The bias after a difference. -/
def adapt (delta count : Nat) (first : Bool) : Nat :=
  let delta := if first then delta / 700 else delta / 2
  let (delta, steps) := shrink (delta + delta / count) 0
  steps + 36 * delta / (delta + 38)

/-- Reads one difference from digits of growing weight. -/
def readDelta? (bias : Nat) : (delta weight place : Nat) → List Char → Option (Nat × List Char)
  | _, _, _, [] => none
  | delta, weight, place, c :: rest => do
    let digit ← digitValue? c
    let t := threshold place bias
    let delta := delta + digit * weight
    if digit < t then some (delta, rest)
    else readDelta? bias delta (weight * (36 - t)) (place + 36) rest

/-- Inserts characters into `label` until the digits are used up. Each takes at least one digit,
so fuel above their count is enough. -/
def insertAll? : (fuel : Nat) → (number index bias : Nat) → List Nat → List Char →
    Option (List Nat)
  | 0, _, _, _, _, _ => none
  | _ + 1, _, _, _, label, [] => some label
  | fuel + 1, number, index, bias, label, digits => do
    let (delta, rest) ← readDelta? bias 0 1 36 digits
    let index := index + delta
    let count := label.length + 1
    let bias := adapt delta count (number = 0x80 ∧ label.all (· < 0x80))
    let number := number + index / count
    if 0x10FFFF < number ∨ (0xD800 ≤ number ∧ number ≤ 0xDFFF) then none
    let place := index % count
    insertAll? fuel number (place + 1) bias (label.take place ++ number :: label.drop place) rest

/-- The code points of a label, given without the mark in front of it. -/
def decode? (text : List Char) : Option (List Nat) :=
  let plain := ((text.reverse.dropWhile (· ≠ '-')).drop 1).reverse
  let digits := if text.contains '-' then
    (text.reverse.takeWhile (· ≠ '-')).reverse else text
  if text.all (·.toNat < 0x80) then
    insertAll? (digits.length + 1) 0x80 0 72 (plain.map Char.toNat) digits
  else none

end ScopedRouting.Url.Punycode
