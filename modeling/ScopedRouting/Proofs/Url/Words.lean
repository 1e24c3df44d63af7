import ScopedRouting.Proofs.Query.Rereading
import ScopedRouting.Text.Blank
import ScopedRouting.Url.Location

/-!
# Words in URLs

Letters and digits have no meaning in a URL. Those of ASCII stand for themselves and all others are
escaped byte by byte, so that a word is read from a URL as it was, whether it has been escaped or
not.
-/
namespace ScopedRouting.Url

/-- Letters and digits. Beyond ASCII every character counts that is no blank. -/
def isWordChar (c : Char) : Bool :=
  if c.toNat < 0x80 then c.isAlphanum else !Blank.isBlank c

structure Word where
  text : String
  nonempty : text ≠ ""
  plain : ∀ c ∈ text.toList, isWordChar c = true

/-- The bytes of words. -/
def isWordByte (b : UInt8) : Bool :=
  Percent.isAlphanumeric b || 0x80 ≤ b

theorem isWordByte_of_ascii : ∀ c : Char, c.toNat < 0x80 → isWordChar c = true →
    ∀ b ∈ Utf8.encodeChar c, isWordByte b = true :=
  forall_ascii (by decide +kernel)

theorem isWordByte_of_mem {c : Char} (word : isWordChar c = true) {b : UInt8}
    (member : b ∈ Utf8.encodeChar c) : isWordByte b = true := by
  by_cases ascii : c.toNat < 0x80
  · exact isWordByte_of_ascii c ascii word b member
  · have valid := Utf8.toNat_char_cases c
    have high : ∀ k, 0x80 ≤ k % 256 → isWordByte (UInt8.ofNat k) = true := by
      intro k bound
      have byte : (0x80 : UInt8) ≤ UInt8.ofNat k := by
        rw [UInt8.le_iff_toNat_le, UInt8.toNat_ofNat']
        exact bound
      simp [isWordByte, byte]
    unfold Utf8.encodeChar at member
    dsimp only at member
    repeat' split at member
    all_goals simp only [List.mem_cons, List.not_mem_nil, or_false] at member
    · omega
    · rcases member with rfl | rfl
      all_goals
        apply high
        omega
    · rcases member with rfl | rfl | rfl
      all_goals
        apply high
        omega
    · rcases member with rfl | rfl | rfl | rfl
      all_goals
        apply high
        omega

/-- What an escaped word is written with. -/
def isEscapeChar (c : Char) : Bool :=
  c.isAlphanum || c == '%'

/-- Whether of the bytes of words only some of ASCII stand for themselves. -/
structure SparesWords (keep : UInt8 → Bool) : Prop where
  keepsPlain : ∀ b, isWordByte b = true → Percent.KeepsPlain keep b
  written : ∀ b, isWordByte b = true → ∀ c ∈ Percent.encodeByte keep b, isEscapeChar c = true

theorem sparesWords_of_all {keep : UInt8 → Bool}
    (each : ∀ b, isWordByte b = true →
      Percent.KeepsPlain keep b ∧ (Percent.encodeByte keep b).all isEscapeChar = true) :
    SparesWords keep :=
  ⟨fun b word => (each b word).1, fun b word => List.all_eq_true.mp (each b word).2⟩

theorem sparesWords_isPathByte : SparesWords isPathByte := by
  apply sparesWords_of_all
  unfold Percent.KeepsPlain
  exact forall_byte (by decide +kernel)

theorem sparesWords_isQueryByte : SparesWords (isQueryByte true) := by
  apply sparesWords_of_all
  unfold Percent.KeepsPlain
  exact forall_byte (by decide +kernel)

/-- Whether a piece is read as a text, as a segment of a path and as a part of a query, and none of
their separators is in it. -/
structure Reads (piece : List Char) (text : String) : Prop where
  some_left : piece ≠ []
  closed : ∀ c ∈ piece, c ≠ '/' ∧ c ≠ '?' ∧ c ≠ '&' ∧ c ≠ '='
  segment : Percent.decodeOrKeep (String.ofList piece) = text
  part : Query.decodePart piece = text

theorem decodePart_of_not_mem {piece : List Char} (blank : '+' ∉ piece) :
    Query.decodePart piece =
      String.ofList (Utf8.decodeLossy (Percent.decodeBytes (Utf8.encode piece))) := by
  have same : piece.map Query.blankOfPlus = piece := by
    refine (List.map_congr_left fun c member => ?_).trans (List.map_id piece)
    have other : c ≠ '+' := fun plus => blank (plus ▸ member)
    exact if_neg other
  rw [Query.decodePart_eq, same]

/-- A text without separators, percent signs and plus signs is read as it stands. -/
theorem reads_of_plain {text : String} (nonempty : text ≠ "")
    (plain : ∀ c ∈ text.toList, c ≠ '/' ∧ c ≠ '?' ∧ c ≠ '&' ∧ c ≠ '=' ∧ c ≠ '%' ∧ c ≠ '+') :
    Reads text.toList text := by
  have sign : '%' ∉ text.toList := fun member => (plain _ member).2.2.2.2.1 rfl
  have blank : '+' ∉ text.toList := fun member => (plain _ member).2.2.2.2.2 rfl
  refine ⟨?_, ?_, ?_, ?_⟩
  · exact mt String.toList_eq_nil_iff.mp nonempty
  · intro c member
    obtain ⟨slash, mark, ampersand, equal, _⟩ := plain c member
    exact ⟨slash, mark, ampersand, equal⟩
  · rw [String.ofList_toList, Percent.decodeOrKeep_of_not_mem sign]
  · simp [decodePart_of_not_mem blank,
      Percent.decodeBytes_of_not_mem (Percent.percentByte_not_mem_encode sign)]

namespace Word

theorem isWordByte (word : Word) : ∀ b ∈ Utf8.encode word.text.toList, isWordByte b = true := by
  intro b member
  obtain ⟨c, listed, byte⟩ := List.mem_flatMap.mp member
  exact isWordByte_of_mem (word.plain c listed) byte

/-- A word as it is written in a URL. -/
def escaped (keep : UInt8 → Bool) (word : Word) : List Char :=
  escapeWith keep word.text.toList

variable {keep : UInt8 → Bool}

theorem isEscapeChar_of_mem (spares : SparesWords keep) {word : Word} {c : Char}
    (member : c ∈ word.escaped keep) : isEscapeChar c = true := by
  obtain ⟨b, listed, written⟩ := List.mem_flatMap.mp member
  exact spares.written b (word.isWordByte b listed) c written

theorem decodeBytes_escaped (spares : SparesWords keep) (word : Word) :
    Percent.decodeBytes (Utf8.encode (word.escaped keep)) = Utf8.encode word.text.toList :=
  Percent.decodeBytes_encodeBytes fun b member => spares.keepsPlain b (word.isWordByte b member)

/-- An escaped word is read as the word. -/
theorem reads_escaped (spares : SparesWords keep) (word : Word) :
    Reads (word.escaped keep) word.text := by
  have absent : ∀ {c}, isEscapeChar c = false → c ∉ word.escaped keep := by
    intro c other member
    rw [isEscapeChar_of_mem spares member] at other
    cases other
  have decoded := decodeBytes_escaped spares word
  refine ⟨?_, ?_, ?_, ?_⟩
  · intro nothing
    have read := Utf8.decodeLossy_encode word.text.toList
    rw [← decoded, nothing] at read
    have empty : Utf8.decodeLossy (Percent.decodeBytes (Utf8.encode [])) = [] := by
      decide +kernel
    exact word.nonempty (String.toList_eq_nil_iff.mp (read.symm.trans empty))
  · intro c member
    refine ⟨?_, ?_, ?_, ?_⟩ <;>
    · rintro rfl
      exact absent (by decide) member
  · simp [Percent.decodeOrKeep, Percent.decode?, decoded]
  · simp [decodePart_of_not_mem (absent (by decide)), decoded]

theorem ne_of_mem {word : Word} {c other : Char} (member : c ∈ word.text.toList)
    (sign : isWordChar other = false) : c ≠ other := by
  rintro rfl
  rw [word.plain c member] at sign
  cases sign

theorem reads_text (word : Word) : Reads word.text.toList word.text := by
  refine reads_of_plain word.nonempty fun c member => ?_
  refine ⟨?_, ?_, ?_, ?_, ?_, ?_⟩ <;> exact ne_of_mem member (by decide)

end Word

end ScopedRouting.Url
