/-!
# UTF-8

Characters as bytes and bytes as characters. A byte sequence is cut into characters and into
ill-formed pieces, each piece as long as the start of a character it could have been. The strict
reader refuses a sequence with such a piece; the lossy one writes a replacement character for it.
-/
namespace ScopedRouting.Utf8

/-- The bytes of one character, shortest form. -/
def encodeChar (c : Char) : List UInt8 :=
  let n := c.toNat
  if n < 0x80 then [UInt8.ofNat n]
  else if n < 0x800 then [UInt8.ofNat (0xC0 + n / 64), UInt8.ofNat (0x80 + n % 64)]
  else if n < 0x10000 then
    [UInt8.ofNat (0xE0 + n / 4096), UInt8.ofNat (0x80 + n / 64 % 64),
      UInt8.ofNat (0x80 + n % 64)]
  else
    [UInt8.ofNat (0xF0 + n / 262144), UInt8.ofNat (0x80 + n / 4096 % 64),
      UInt8.ofNat (0x80 + n / 64 % 64), UInt8.ofNat (0x80 + n % 64)]

def encode (text : List Char) : List UInt8 :=
  text.flatMap encodeChar

/-- What a lead byte promises: how many bytes follow, the payload it carries itself, and the
bounds of the byte after it. -/
structure Lead where
  following : Nat
  payload : Nat
  low : Nat
  high : Nat

/-- The promise of a byte above ASCII, none for a byte that cannot lead. The narrowed bounds
exclude overlong forms, surrogates and everything above the last code point. -/
def Lead.ofByte? (b : Nat) : Option Lead :=
  if b < 0xC2 then none
  else if b < 0xE0 then some ⟨1, b - 0xC0, 0x80, 0xBF⟩
  else if b = 0xE0 then some ⟨2, 0, 0xA0, 0xBF⟩
  else if b = 0xED then some ⟨2, 0xD, 0x80, 0x9F⟩
  else if b < 0xF0 then some ⟨2, b - 0xE0, 0x80, 0xBF⟩
  else if b = 0xF0 then some ⟨3, 0, 0x90, 0xBF⟩
  else if b < 0xF4 then some ⟨3, b - 0xF0, 0x80, 0xBF⟩
  else if b = 0xF4 then some ⟨3, 4, 0x80, 0x8F⟩
  else none

/-- Reads `count` continuation bytes onto `payload`. Stops before the first byte out of bounds. -/
def readTail : (count payload low high : Nat) → List UInt8 → Option Nat × List UInt8
  | 0, payload, _, _, rest => (some payload, rest)
  | _ + 1, _, _, _, [] => (none, [])
  | count + 1, payload, low, high, b :: rest =>
    if low ≤ b.toNat ∧ b.toNat ≤ high then
      readTail count (payload * 64 + b.toNat % 64) 0x80 0xBF rest
    else (none, b :: rest)

theorem length_readTail_le (count payload low high : Nat) (bytes : List UInt8) :
    (readTail count payload low high bytes).2.length ≤ bytes.length := by
  induction count generalizing payload low high bytes with
  | zero => simp [readTail]
  | succ count ih =>
    cases bytes with
    | nil => simp [readTail]
    | cons b rest =>
      simp only [readTail]
      split
      · exact Nat.le_trans (ih ..) (Nat.le_succ _)
      · exact Nat.le_refl _

/-- The character that begins with byte `b`, or none for an ill-formed piece, and what follows. -/
def readChar (b : UInt8) (rest : List UInt8) : Option Char × List UInt8 :=
  if b.toNat < 0x80 then (some (Char.ofNat b.toNat), rest)
  else match Lead.ofByte? b.toNat with
    | none => (none, rest)
    | some lead =>
      let tail := readTail lead.following lead.payload lead.low lead.high rest
      (tail.1.map Char.ofNat, tail.2)

theorem length_readChar_le (b : UInt8) (rest : List UInt8) :
    (readChar b rest).2.length ≤ rest.length := by
  unfold readChar
  split
  · exact Nat.le_refl _
  · split
    · exact Nat.le_refl _
    · exact length_readTail_le ..

/-- The characters of a byte sequence in order, none standing for each ill-formed piece. -/
def scan : List UInt8 → List (Option Char)
  | [] => []
  | b :: rest => (readChar b rest).1 :: scan (readChar b rest).2
termination_by bytes => bytes.length
decreasing_by exact Nat.lt_succ_of_le (length_readChar_le b rest)

/-- Strict reading: the text, if every byte belongs to a character. -/
def decode? (bytes : List UInt8) : Option (List Char) :=
  (scan bytes).mapM id

/-- Lossy reading: every ill-formed piece becomes U+FFFD. -/
def decodeLossy (bytes : List UInt8) : List Char :=
  (scan bytes).map (·.getD '\uFFFD')

end ScopedRouting.Utf8
