import Mathlib.Data.List.Basic
import ScopedRouting.Proofs.Dictionary.Pairs
import ScopedRouting.Proofs.Text.Encoding
import ScopedRouting.Query

/-!
# Reading written queries

A query is written with characters that have no meaning in a URL but the one that the form gives
them: what separates keys, values and pairs is never part of them. So every written query is read
back as it was, with all its keys and values, and no two queries are written alike.
-/
namespace ScopedRouting

namespace Query

/-- The blank that a plus sign stands for, and any other character itself. -/
def blankOfPlus (c : Char) : Char :=
  if c = '+' then ' ' else c

theorem decodePart_eq (part : List Char) : decodePart part =
    String.ofList (Utf8.decodeLossy (Percent.decodeBytes (Utf8.encode (part.map blankOfPlus)))) :=
  rfl

/-- Bytes that are not escaped. -/
def isUnescaped (b : UInt8) : Bool :=
  isPlain b || b == 0x20

theorem keepsPlain_isUnescaped (b : UInt8) : Percent.KeepsPlain isUnescaped b := by
  unfold Percent.KeepsPlain
  revert b
  exact forall_byte (by decide +kernel)

/-- What a key or a value is written with. -/
def isPartChar (c : Char) : Bool :=
  c.isAlphanum || "*-._+%".toList.contains c

/-- A byte is written with characters of parts, and plus signs in it stand for blanks. -/
theorem encodeByte_spec (b : UInt8) :
    (encodeByte b).map blankOfPlus = Percent.encodeByte isUnescaped b ∧
      ∀ c ∈ encodeByte b, isPartChar c = true := by
  have each : ∀ b, (encodeByte b).map blankOfPlus = Percent.encodeByte isUnescaped b ∧
      (encodeByte b).all isPartChar = true :=
    forall_byte (by decide +kernel)
  exact ⟨(each b).1, List.all_eq_true.mp (each b).2⟩

/-- Decoding a key or a value undoes encoding it. -/
theorem decodePart_encodePart (part : String) : decodePart (encodePart part) = part := by
  have spaced : (encodePart part).map blankOfPlus =
      Percent.encodeBytes isUnescaped (Utf8.encode part.toList) := by
    rw [encodePart, List.map_flatMap, Percent.encodeBytes]
    exact List.flatMap_congr fun b _ => (encodeByte_spec b).1
  simp [decodePart_eq, spaced,
    Percent.decodeBytes_encodeBytes fun b _ => keepsPlain_isUnescaped b]

theorem isPartChar_of_mem {part : String} {c : Char} (member : c ∈ encodePart part) :
    isPartChar c = true := by
  obtain ⟨b, _, written⟩ := List.mem_flatMap.mp member
  exact (encodeByte_spec b).2 c written

/-- Key and value as they are written, with the sign between them. -/
def joinPair (parts : List Char × List Char) : List Char :=
  parts.1 ++ '=' :: parts.2

theorem decodePair_joinPair {parts : List Char × List Char} (key : '=' ∉ parts.1) :
    decodePair (joinPair parts) = (decodePart parts.1, decodePart parts.2) := by
  have before : ∀ c ∈ parts.1, decide (c ≠ '=') = true := by
    intro c member
    apply decide_eq_true
    rintro rfl
    exact key member
  rw [decodePair, joinPair,
    List.takeWhile_append_of_pos before, List.dropWhile_append_of_pos before,
    List.takeWhile_cons_of_neg (by simp), List.dropWhile_cons_of_neg (by simp), List.append_nil,
    List.drop_one, List.tail_cons]

/-- Pairs are read one by one if no separator and no sign stands where it would be taken for the
one between them. -/
theorem pairs_intercalate {parts : List (List Char × List Char)}
    (apart : ∀ pair ∈ parts, '=' ∉ pair.1 ∧ '&' ∉ pair.1 ∧ '&' ∉ pair.2) :
    pairs (['&'].intercalate (parts.map joinPair)) =
      parts.map fun pair => (decodePart pair.1, decodePart pair.2) := by
  by_cases empty : parts = []
  · rw [empty]
    rfl
  · have nonempty : ∀ text ∈ parts.map joinPair, decide (text ≠ []) = true := by
      intro text member
      obtain ⟨pair, _, rfl⟩ := List.mem_map.mp member
      simp [joinPair]
    have closed : ∀ text ∈ parts.map joinPair, '&' ∉ text := by
      intro text member
      obtain ⟨pair, listed, rfl⟩ := List.mem_map.mp member
      simp [joinPair, apart pair listed]
    rw [pairs, List.splitOn_intercalate '&' closed (by simpa using empty),
      List.filter_eq_self.mpr nonempty, List.map_map]
    exact List.map_congr_left fun pair listed => decodePair_joinPair (apart pair listed).1

/-- What a query is written with. -/
def isQueryChar (c : Char) : Bool :=
  isPartChar c || c == '=' || c == '&'

theorem isPartChar_or_eq_of_mem {pair : String × String} {c : Char}
    (member : c ∈ encodePair pair) : isPartChar c = true ∨ c = '=' := by
  rcases List.mem_append.mp member with key | behind
  · exact .inl (isPartChar_of_mem key)
  · rcases List.mem_cons.mp behind with sign | value
    · exact .inr sign
    · exact .inl (isPartChar_of_mem value)

/-- A written query is cut into its pairs again. -/
theorem pairs_toText (query : Query) : pairs query.toText.toList = query.entries := by
  have written : query.entries.map encodePair =
      (query.entries.map fun pair => (encodePart pair.1, encodePart pair.2)).map joinPair := by
    rw [List.map_map]
    rfl
  have absent : ∀ {c : Char} (part : String), isPartChar c = false → c ∉ encodePart part := by
    intro c part other member
    exact absurd (isPartChar_of_mem member) (by simp [other])
  rw [toText, String.toList_ofList, written, pairs_intercalate, List.map_map]
  · simp [Function.comp_def, decodePart_encodePart]
  · intro pair listed
    obtain ⟨entry, _, rfl⟩ := List.mem_map.mp listed
    exact ⟨absent entry.1 (by decide), absent entry.1 (by decide), absent entry.2 (by decide)⟩

/-- What stands between separators is a separator or part of a piece. -/
theorem mem_intercalate {separator c : Char} {pieces : List (List Char)}
    (member : c ∈ [separator].intercalate pieces) :
    c = separator ∨ ∃ piece ∈ pieces, c ∈ piece := by
  induction pieces with
  | nil => cases member
  | cons first rest ih =>
    cases rest with
    | nil =>
      rw [List.intercalate_singleton] at member
      exact .inr ⟨first, List.mem_cons_self, member⟩
    | cons second others =>
      rw [List.intercalate_cons_cons, List.append_assoc, List.mem_append, List.mem_append,
        List.mem_singleton] at member
      rcases member with here | mark | later
      · exact .inr ⟨first, List.mem_cons_self, here⟩
      · exact .inl mark
      · rcases ih later with mark | ⟨piece, listed, inside⟩
        · exact .inl mark
        · exact .inr ⟨piece, List.mem_cons_of_mem first listed, inside⟩

theorem isQueryChar_of_mem {query : Query} {c : Char} (member : c ∈ query.toText.toList) :
    isQueryChar c = true := by
  rw [toText, String.toList_ofList] at member
  rcases mem_intercalate member with rfl | ⟨text, listed, inside⟩
  · decide
  · obtain ⟨pair, _, rfl⟩ := List.mem_map.mp listed
    rcases isPartChar_or_eq_of_mem inside with part | rfl
    · simp [isQueryChar, part]
    · decide

theorem stripMark_of_not_mem {text : List Char} (absent : '?' ∉ text) : stripMark text = text := by
  unfold stripMark
  split
  · exact absurd List.mem_cons_self absent
  · rfl

theorem parse_toText (query : Query) : parse query.toText = query := by
  have unmarked : '?' ∉ query.toText.toList := by
    intro mark
    exact absurd (isQueryChar_of_mem mark) (by decide)
  rw [parse, stripMark_of_not_mem unmarked, pairs_toText, Dictionary.ofList_entries]

end Query

/-- Every query is what is read from its text, which has no characters but those of the form. So two
queries have the same text exactly if they are equal, and what is read from any text is read again
from the text that is written for it. -/
theorem written_query_reads_back :
    (∀ query : Query, Query.parse query.toText = query ∧
      ∀ c ∈ query.toText.toList, Query.isQueryChar c = true) ∧
    (∀ a b : Query, a.toText = b.toText ↔ a = b) ∧
    ∀ text, Query.parse (Query.parse text).toText = Query.parse text := by
  refine ⟨fun query => ⟨Query.parse_toText query, fun _ => Query.isQueryChar_of_mem⟩, ?_,
    fun text => Query.parse_toText (Query.parse text)⟩
  intro a b
  constructor
  · intro same
    rw [← Query.parse_toText a, same, Query.parse_toText b]
  · rintro rfl
    rfl

/-- Separators, signs and blanks in keys and values are written so that they do not separate. -/
example : Query.toText (.ofList [("a&b", "1=2"), ("", "? +%")]) = "=%3F+%2B%25&a%26b=1%3D2" := by
  decide

end ScopedRouting
