import ScopedRouting.Text.Utf8

/-!
# Percent escapes

An escape is `%` and two hexadecimal digits, and stands for one byte. Decoding reads every
well-formed escape and leaves everything else alone, a lone `%` included. Encoding escapes every
byte outside a given set, with upper-case digits.
-/
namespace ScopedRouting.Percent

def percentByte : UInt8 := 0x25

/-- Value of an ASCII hexadecimal digit of either case. -/
def hexValue? (b : UInt8) : Option UInt8 :=
  if 0x30 ≤ b ∧ b ≤ 0x39 then some (b - 0x30)
  else if 0x41 ≤ b ∧ b ≤ 0x46 then some (b - 0x37)
  else if 0x61 ≤ b ∧ b ≤ 0x66 then some (b - 0x57)
  else none

/-- The byte that two hexadecimal digits stand for. -/
def escaped? (high low : UInt8) : Option UInt8 := do
  let h ← hexValue? high
  let l ← hexValue? low
  return h * 16 + l

def decodeBytes : List UInt8 → List UInt8
  | [] => []
  | [a] => [a]
  | [a, b] => [a, b]
  | a :: b :: c :: rest =>
    if a = percentByte then
      match escaped? b c with
      | some byte => byte :: decodeBytes rest
      | none => a :: decodeBytes (b :: c :: rest)
    else a :: decodeBytes (b :: c :: rest)

/-- Upper-case hexadecimal digit of a number below sixteen. -/
def hexDigit (n : Nat) : Char :=
  Char.ofNat (if n < 10 then 0x30 + n else 0x37 + n)

def escape (b : UInt8) : List Char :=
  ['%', hexDigit (b.toNat / 16), hexDigit (b.toNat % 16)]

/-- One byte, written as itself where `keep` allows it. -/
def encodeByte (keep : UInt8 → Bool) (b : UInt8) : List Char :=
  if keep b then [Char.ofNat b.toNat] else escape b

def encodeBytes (keep : UInt8 → Bool) (bytes : List UInt8) : List Char :=
  bytes.flatMap (encodeByte keep)

def isAlphanumeric (b : UInt8) : Bool :=
  (0x30 ≤ b && b ≤ 0x39) || (0x41 ≤ b && b ≤ 0x5A) || (0x61 ≤ b && b ≤ 0x7A)

/-- Letters, digits and `- . _ ~`: what a path token may hold without an escape. -/
def isUnreserved (b : UInt8) : Bool :=
  isAlphanumeric b || b == 0x2D || b == 0x2E || b == 0x5F || b == 0x7E

/-- Text of which only unreserved characters stand for themselves. -/
def encodeComponent (text : String) : String :=
  String.ofList (encodeBytes isUnreserved (Utf8.encode text.toList))

/-- Decoded text, if its bytes are UTF-8. -/
def decode? (text : String) : Option String :=
  (Utf8.decode? (decodeBytes (Utf8.encode text.toList))).map String.ofList

/-- Decoded text, or the text as it stands if its bytes are no UTF-8. -/
def decodeOrKeep (text : String) : String :=
  (decode? text).getD text

end ScopedRouting.Percent
