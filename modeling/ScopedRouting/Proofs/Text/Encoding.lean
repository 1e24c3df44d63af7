import ScopedRouting.Proofs.Text.Utf8
import ScopedRouting.Text.Percent

/-!
# Encoded texts

An encoded text holds unreserved characters and escapes only. Decoding it once gives the text back,
whatever it is. Decoding leaves a text without a percent sign as it is.
-/
namespace ScopedRouting

/-- What holds of the bytes one by one holds of every byte. -/
theorem forall_byte {P : UInt8 → Prop} (each : ∀ k < 256, P (UInt8.ofNat k)) (b : UInt8) : P b := by
  have here := each b.toNat b.toNat_lt
  rwa [UInt8.ofNat_toNat] at here

theorem forall_ascii {P : Char → Prop} (each : ∀ k < 0x80, P (Char.ofNat k)) (c : Char)
    (ascii : c.toNat < 0x80) : P c := by
  have here := each c.toNat ascii
  rwa [Char.ofNat_toNat] at here

theorem Utf8.encode_append (a b : List Char) : encode (a ++ b) = encode a ++ encode b :=
  List.flatMap_append

namespace Percent

theorem decodeBytes_cons_of_ne {b : UInt8} (plain : b ≠ percentByte) (rest : List UInt8) :
    decodeBytes (b :: rest) = b :: decodeBytes rest := by
  match rest with
  | [] => rfl
  | [_] => rfl
  | _ :: _ :: _ => rw [decodeBytes, if_neg plain]

theorem decodeBytes_of_not_mem {bytes : List UInt8} (absent : percentByte ∉ bytes) :
    decodeBytes bytes = bytes := by
  induction bytes with
  | nil => rfl
  | cons b rest ih =>
    have plain : b ≠ percentByte := by
      rintro rfl
      exact absent List.mem_cons_self
    have later : percentByte ∉ rest := fun member => absent (List.mem_cons_of_mem b member)
    rw [decodeBytes_cons_of_ne plain, ih later]

/-- A hexadecimal digit is one byte, which has the value of the digit. -/
theorem hexValue?_hexDigit {k : Nat} (small : k < 16) :
    Utf8.encodeChar (hexDigit k) = [UInt8.ofNat (hexDigit k).toNat] ∧
      hexValue? (UInt8.ofNat (hexDigit k).toNat) = some (UInt8.ofNat k) := by
  have digits : ∀ k < 16, Utf8.encodeChar (hexDigit k) = [UInt8.ofNat (hexDigit k).toNat] ∧
      hexValue? (UInt8.ofNat (hexDigit k).toNat) = some (UInt8.ofNat k) := by
    decide
  exact digits k small

/-- Whether a byte that is not escaped is an ASCII byte and no percent sign. -/
def KeepsPlain (keep : UInt8 → Bool) (b : UInt8) : Prop :=
  keep b = true → b.toNat < 0x80 ∧ b ≠ percentByte

theorem keepsPlain_isUnreserved (b : UInt8) : KeepsPlain isUnreserved b := by
  unfold KeepsPlain
  revert b
  exact forall_byte (by decide +kernel)

theorem encodeChar_of_ascii {b : UInt8} (ascii : b.toNat < 0x80) :
    Utf8.encodeChar (Char.ofNat b.toNat) = [b] := by
  have each : ∀ b : UInt8, b.toNat < 0x80 → Utf8.encodeChar (Char.ofNat b.toNat) = [b] :=
    forall_byte (by decide +kernel)
  exact each b ascii

theorem escaped?_hexDigits (b : UInt8) :
    escaped? (UInt8.ofNat (hexDigit (b.toNat / 16)).toNat)
      (UInt8.ofNat (hexDigit (b.toNat % 16)).toNat) = some b := by
  have byte : b.toNat < 256 := b.toNat_lt
  have high : b.toNat / 16 < 16 := by omega
  have low : b.toNat % 16 < 16 := by omega
  have whole : UInt8.ofNat (b.toNat / 16) * 16 + UInt8.ofNat (b.toNat % 16) = b := by
    apply UInt8.toNat_inj.mp
    simp only [UInt8.toNat_add, UInt8.toNat_mul, UInt8.toNat_ofNat', UInt8.reduceToNat]
    omega
  simp [escaped?, (hexValue?_hexDigit high).2, (hexValue?_hexDigit low).2, whole]

/-- An encoded byte is decoded to the byte, whatever follows. -/
theorem decodeBytes_encodeByte {keep : UInt8 → Bool} {b : UInt8} (plain : KeepsPlain keep b)
    (rest : List UInt8) :
    decodeBytes (Utf8.encode (encodeByte keep b) ++ rest) = b :: decodeBytes rest := by
  unfold encodeByte
  split
  · rename_i kept
    obtain ⟨ascii, no_sign⟩ := plain kept
    rw [Utf8.encode, List.flatMap_singleton, encodeChar_of_ascii ascii]
    exact decodeBytes_cons_of_ne no_sign rest
  · have high : b.toNat / 16 < 16 := by
      have byte : b.toNat < 256 := b.toNat_lt
      omega
    have low : b.toNat % 16 < 16 := by omega
    have sign : Utf8.encodeChar '%' = [percentByte] := by decide
    have bytes : Utf8.encode (escape b) = [percentByte,
        UInt8.ofNat (hexDigit (b.toNat / 16)).toNat,
        UInt8.ofNat (hexDigit (b.toNat % 16)).toNat] := by
      simp [Utf8.encode, escape, sign, (hexValue?_hexDigit high).1, (hexValue?_hexDigit low).1]
    rw [bytes, List.cons_append, List.cons_append, List.cons_append, List.nil_append, decodeBytes,
      if_pos rfl, escaped?_hexDigits]

theorem decodeBytes_encodeBytes {keep : UInt8 → Bool} {bytes : List UInt8}
    (plain : ∀ b ∈ bytes, KeepsPlain keep b) :
    decodeBytes (Utf8.encode (encodeBytes keep bytes)) = bytes := by
  induction bytes with
  | nil => rfl
  | cons b rest ih =>
    obtain ⟨first, later⟩ := List.forall_mem_cons.mp plain
    rw [encodeBytes, List.flatMap_cons, Utf8.encode_append, decodeBytes_encodeByte first]
    exact congrArg (b :: ·) (ih later)

/-- Decoding undoes encoding. -/
@[simp]
theorem decode?_encodeComponent (text : String) : decode? (encodeComponent text) = some text := by
  simp [decode?, encodeComponent, decodeBytes_encodeBytes fun b _ => keepsPlain_isUnreserved b]

@[simp]
theorem decodeOrKeep_encodeComponent (text : String) :
    decodeOrKeep (encodeComponent text) = text := by
  simp [decodeOrKeep]

theorem slash_not_mem_encodeComponent (text : String) : '/' ∉ (encodeComponent text).toList := by
  have each : ∀ b, '/' ∉ encodeByte isUnreserved b := forall_byte (by decide +kernel)
  rw [encodeComponent, String.toList_ofList, encodeBytes, List.mem_flatMap]
  rintro ⟨b, _, member⟩
  exact each b member

theorem encodeComponent_ne_empty {text : String} (nonempty : text ≠ "") :
    encodeComponent text ≠ "" := by
  intro empty
  have read := decode?_encodeComponent text
  rw [empty] at read
  have nothing : decode? "" = some "" := by decide +kernel
  exact nonempty (Option.some.inj (read.symm.trans nothing))

/-- Only the percent sign itself has its byte. -/
theorem percentByte_not_mem_encodeChar {c : Char} (other : c ≠ '%') :
    percentByte ∉ Utf8.encodeChar c := by
  have point : c.toNat ≠ 0x25 := fun same => other (Char.toNat_inj.mp same)
  have byte : ∀ k, percentByte = UInt8.ofNat k → k % 256 = 0x25 := by
    intro k same
    have value := congrArg UInt8.toNat same
    rw [UInt8.toNat_ofNat'] at value
    exact value.symm
  have valid := Utf8.toNat_char_cases c
  intro member
  unfold Utf8.encodeChar at member
  dsimp only at member
  repeat' split at member
  all_goals simp only [List.mem_cons, List.not_mem_nil, or_false] at member
  · have := byte _ member
    omega
  · rcases member with same | same
    all_goals
      have := byte _ same
      omega
  · rcases member with same | same | same
    all_goals
      have := byte _ same
      omega
  · rcases member with same | same | same | same
    all_goals
      have := byte _ same
      omega

theorem percentByte_not_mem_encode {text : List Char} (absent : '%' ∉ text) :
    percentByte ∉ Utf8.encode text := by
  rw [Utf8.encode, List.mem_flatMap]
  rintro ⟨c, member, byte⟩
  refine percentByte_not_mem_encodeChar ?_ byte
  rintro rfl
  exact absent member

theorem decodeOrKeep_of_not_mem {text : String} (absent : '%' ∉ text.toList) :
    decodeOrKeep text = text := by
  simp [decodeOrKeep, decode?, decodeBytes_of_not_mem (percentByte_not_mem_encode absent)]

end Percent

end ScopedRouting
