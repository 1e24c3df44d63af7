import Mathlib.Data.List.ModifyLast
import ScopedRouting.Proofs.Path.Rereading
import ScopedRouting.Proofs.Url.Names
import ScopedRouting.Proofs.Url.Words

/-!
# References made of words

A reference has a path of words, and possibly a query of words and a fragment. Read as a URL it has
the words of its path and its query, whatever the fragment is. Read as it stands, the fragment is
taken for the end of what it stands behind.
-/
namespace ScopedRouting

namespace Url

/-- A piece of a reference with the text that it is read as, which is no relative indicator. -/
structure Piece where
  chars : List Char
  text : String
  reads : Reads chars text
  named : text ≠ "."

theorem Piece.not_mem (piece : Piece) : '/' ∉ piece.chars ∧ '?' ∉ piece.chars ∧
    '&' ∉ piece.chars ∧ '=' ∉ piece.chars := by
  refine ⟨?_, ?_, ?_, ?_⟩ <;>
  · intro member
    have closed := piece.reads.closed _ member
    simp at closed

end Url

namespace Path

open Url (Piece)

theorem cut_intercalate {separator : Char} {pieces : List (List Char)}
    (closed : ∀ piece ∈ pieces, separator ∉ piece) (some_left : ∀ piece ∈ pieces, piece ≠ []) :
    cut separator ([separator].intercalate pieces) = pieces := by
  by_cases empty : pieces = []
  · rw [empty]
    rfl
  · rw [cut, List.splitOn_intercalate separator closed empty, List.filter_eq_self]
    exact fun piece member => decide_eq_true (some_left piece member)

/-- A path of pieces is read piece by piece. -/
theorem decoded_pieces (pieces : List Piece) :
    ((cut pathSeparator ([pathSeparator].intercalate (pieces.map Piece.chars))).map
      String.ofList).map Percent.decodeOrKeep = pieces.map Piece.text := by
  rw [cut_intercalate, List.map_map, List.map_map]
  · exact List.map_congr_left fun piece _ => piece.reads.segment
  · intro chars member
    obtain ⟨piece, _, rfl⟩ := List.mem_map.mp member
    exact piece.not_mem.1
  · intro chars member
    obtain ⟨piece, _, rfl⟩ := List.mem_map.mp member
    exact piece.reads.some_left

theorem parse_absolute_pieces (pieces : List Piece) :
    parse {} (String.ofList ('/' :: ['/'].intercalate (pieces.map Piece.chars))) =
      ⟨pieces.map Piece.text, false⟩ := by
  have decoded := decoded_pieces pieces
  rw [parse, pieces_eq, String.toList_ofList]
  change ofTokens "." (((cut pathSeparator (pathSeparator :: _)).map _).map _) = _
  rw [cut_cons_separator]
  change ofTokens "." (((cut pathSeparator ([pathSeparator].intercalate _)).map _).map _) = _
  rw [decoded]
  cases pieces with
  | nil => rfl
  | cons piece rest => exact if_neg piece.named

theorem parse_relative_pieces (pieces : List Piece) :
    parse {} (String.ofList ('.' :: '/' :: ['/'].intercalate (pieces.map Piece.chars))) =
      ⟨pieces.map Piece.text, true⟩ := by
  have decoded := decoded_pieces pieces
  have dot : Percent.decodeOrKeep "." = "." := Percent.decodeOrKeep_of_not_mem (by decide)
  rw [parse, pieces_eq, String.toList_ofList]
  change ofTokens "." (((cut pathSeparator (['.'] ++ pathSeparator :: _)).map _).map _) = _
  rw [cut_append_separator, cut_of_not_mem (by decide) (by simp)]
  change ofTokens "." (Percent.decodeOrKeep "." ::
    ((cut pathSeparator ([pathSeparator].intercalate _)).map _).map _) = _
  rw [decoded, dot, ofTokens, if_pos rfl]

end Path

namespace Query

open Url (Piece)

/-- A query of pieces is read pair by pair. -/
theorem parse_pieces (pairs : List (Piece × Piece)) :
    parse (String.ofList (['&'].intercalate (pairs.map fun pair =>
      joinPair (pair.1.chars, pair.2.chars)))) =
      Dictionary.ofList (pairs.map fun pair => (pair.1.text, pair.2.text)) := by
  have written : (pairs.map fun pair => joinPair (pair.1.chars, pair.2.chars)) =
      (pairs.map fun pair => (pair.1.chars, pair.2.chars)).map joinPair := by
    rw [List.map_map]
    rfl
  have unmarked : '?' ∉ ['&'].intercalate (pairs.map fun pair =>
      joinPair (pair.1.chars, pair.2.chars)) := by
    intro member
    rcases mem_intercalate member with mark | ⟨text, listed, inside⟩
    · cases mark
    · obtain ⟨pair, _, rfl⟩ := List.mem_map.mp listed
      rcases List.mem_append.mp inside with key | behind
      · exact pair.1.not_mem.2.1 key
      · rcases List.mem_cons.mp behind with sign | value
        · cases sign
        · exact pair.2.not_mem.2.1 value
  rw [parse, String.toList_ofList, stripMark_of_not_mem unmarked, written, pairs_intercalate,
    List.map_map]
  · refine congrArg Dictionary.ofList (List.map_congr_left fun pair _ => ?_)
    exact Prod.ext pair.1.reads.part pair.2.reads.part
  · intro parts listed
    obtain ⟨pair, _, rfl⟩ := List.mem_map.mp listed
    exact ⟨pair.1.not_mem.2.2.2, pair.1.not_mem.2.2.1, pair.2.not_mem.2.2.1⟩

end Query

namespace Url

/-- A text that a URL is given by: words of a path, a query if there are pairs, and possibly a
fragment. -/
structure Reference where
  tokens : List Word
  some_tokens : tokens ≠ []
  pairs : List (Word × Word)
  fragment : Option Word

namespace Reference

variable (reference : Reference)

def path : List Char :=
  ['/'].intercalate (reference.tokens.map (·.text.toList))

def query : List Char :=
  ['&'].intercalate (reference.pairs.map fun pair =>
    Query.joinPair (pair.1.text.toList, pair.2.text.toList))

/-- The query with its mark, if there are pairs. -/
def search : List Char :=
  if reference.pairs = [] then [] else '?' :: reference.query

/-- The fragment with its mark, if there is one. -/
def mark : List Char :=
  match reference.fragment with
  | none => []
  | some fragment => '#' :: fragment.text.toList

def text : List Char :=
  reference.path ++ reference.search ++ reference.mark

/-- The reference with a slash in front. -/
def absolute : String :=
  String.ofList ('/' :: reference.text)

/-- The reference with the relative indicator in front. -/
def relative : String :=
  String.ofList ('.' :: '/' :: reference.text)

def words : List String :=
  reference.tokens.map (·.text)

def values : List (String × String) :=
  reference.pairs.map fun pair => (pair.1.text, pair.2.text)

/-- The words with the fragment left at the end of the last one, unless there is a query. -/
def markedWords : List String :=
  if reference.pairs = [] then
    reference.words.modifyLast fun word => String.ofList (word.toList ++ reference.mark)
  else reference.words

/-- The values with the fragment left at the end of the last one. -/
def markedValues : List (String × String) :=
  reference.values.modifyLast fun pair =>
    (pair.1, String.ofList (pair.2.toList ++ reference.mark))

end Reference

/-- What references are written with, and the dot in front of them. -/
def isReferenceChar (c : Char) : Bool :=
  isWordChar c || "./?&=#".toList.contains c

/-- Whether a character is neither a blank nor a control nor a backslash. -/
def isVisible (c : Char) : Prop :=
  Blank.isBlank c = false ∧ 0x20 < c.toNat ∧ c ≠ '\\'

instance : DecidablePred isVisible := fun c =>
  inferInstanceAs (Decidable (Blank.isBlank c = false ∧ 0x20 < c.toNat ∧ c ≠ '\\'))

theorem isVisible_of_ascii : ∀ c : Char, c.toNat < 0x80 → isReferenceChar c = true → isVisible c :=
  forall_ascii (by decide +kernel)

theorem isVisible_of_isReferenceChar {c : Char} (plain : isReferenceChar c = true) :
    isVisible c := by
  by_cases ascii : c.toNat < 0x80
  · exact isVisible_of_ascii c ascii plain
  · rcases Bool.or_eq_true_iff.mp plain with word | sign
    · rw [isWordChar, if_neg ascii] at word
      refine ⟨by simpa using word, by omega, ?_⟩
      rintro rfl
      exact ascii (by decide)
    · have signs : "./?&=#".toList.all (·.toNat < 0x80) = true := by decide
      have small := List.all_eq_true.mp signs c (List.contains_iff_mem.mp sign)
      exact absurd (of_decide_eq_true small) ascii

theorem dropWhile_of_forall {p : Char → Bool} {text : List Char}
    (none : ∀ c ∈ text, p c = false) : text.dropWhile p = text := by
  cases text with
  | nil => rfl
  | cons c rest => exact List.dropWhile_cons_of_neg (by simp [none])

variable {text : List Char}

/-- Visible text is a URL as it stands. -/
theorem coerce_of_visible (visible : ∀ c ∈ text, isVisible c) :
    Path.coerce (String.ofList text) = String.ofList text := by
  have slashes : text.map (fun c => if c = '\\' then '/' else c) = text :=
    (List.map_congr_left fun c member => if_neg (visible c member).2.2).trans (List.map_id text)
  rw [Path.coerce, String.toList_ofList, Blank.trim, Blank.trimStart, Blank.trimEnd,
    dropWhile_of_forall fun c member => (visible c member).1,
    dropWhile_of_forall fun c member => (visible c (List.mem_reverse.mp member)).1,
    List.reverse_reverse, slashes]

theorem clean_of_visible (visible : ∀ c ∈ text, isVisible c) :
    clean (String.ofList text) = text := by
  have control : ∀ c ∈ text, decide (c.toNat ≤ 0x20) = false := by
    intro c member
    have high := (visible c member).2.1
    exact decide_eq_false (by omega)
  have lines : ∀ c ∈ text, (c != '\t' && c != '\n' && c != '\r') = true := by
    intro c member
    have high := (visible c member).2.1
    simp only [Bool.and_eq_true, bne_iff_ne]
    refine ⟨⟨?_, ?_⟩, ?_⟩ <;>
    · rintro rfl
      exact absurd high (by decide)
  rw [clean, String.toList_ofList, dropWhile_of_forall control,
    dropWhile_of_forall fun c member => control c (List.mem_reverse.mp member),
    List.reverse_reverse, List.filter_eq_self.mpr lines]

namespace Reference

variable (reference : Reference)

theorem word_of_mem_path {c : Char} (member : c ∈ reference.path) :
    isWordChar c = true ∨ c = '/' := by
  rcases Query.mem_intercalate member with slash | ⟨text, listed, inside⟩
  · exact .inr slash
  · obtain ⟨word, _, rfl⟩ := List.mem_map.mp listed
    exact .inl (word.plain c inside)

theorem word_of_mem_query {c : Char} (member : c ∈ reference.query) :
    isWordChar c = true ∨ c = '&' ∨ c = '=' := by
  rcases Query.mem_intercalate member with ampersand | ⟨text, listed, inside⟩
  · exact .inr (.inl ampersand)
  · obtain ⟨pair, _, rfl⟩ := List.mem_map.mp listed
    rcases List.mem_append.mp inside with key | behind
    · exact .inl (pair.1.plain c key)
    · rcases List.mem_cons.mp behind with sign | value
      · exact .inr (.inr sign)
      · exact .inl (pair.2.plain c value)

theorem word_of_mem_mark {c : Char} (member : c ∈ reference.mark) :
    isWordChar c = true ∨ c = '#' := by
  unfold mark at member
  split at member
  · cases member
  · rename_i fragment _
    rcases List.mem_cons.mp member with sign | inside
    · exact .inr sign
    · exact .inl (fragment.plain c inside)

theorem visible_text : ∀ c ∈ reference.text, isVisible c := by
  intro c member
  apply isVisible_of_isReferenceChar
  have of_word : isWordChar c = true → isReferenceChar c = true := fun word => by
    simp [isReferenceChar, word]
  rcases List.mem_append.mp member with front | mark
  · rcases List.mem_append.mp front with path | search
    · rcases reference.word_of_mem_path path with word | rfl
      · exact of_word word
      · decide
    · unfold Reference.search at search
      split at search
      · cases search
      · rcases List.mem_cons.mp search with rfl | query
        · decide
        · rcases reference.word_of_mem_query query with word | rfl | rfl
          · exact of_word word
          · decide
          · decide
  · rcases reference.word_of_mem_mark mark with word | rfl
    · exact of_word word
    · decide

theorem visible_absolute : ∀ c ∈ '/' :: reference.text, isVisible c :=
  List.forall_mem_cons.mpr ⟨isVisible_of_isReferenceChar (by decide), reference.visible_text⟩

theorem visible_relative : ∀ c ∈ '.' :: '/' :: reference.text, isVisible c :=
  List.forall_mem_cons.mpr ⟨isVisible_of_isReferenceChar (by decide), reference.visible_absolute⟩

end Reference

theorem splitOnP_intercalate {p : Char → Bool} {separator : Char} (own : p separator = true)
    {pieces : List (List Char)} (closed : ∀ piece ∈ pieces, ∀ c ∈ piece, p c = false)
    (some_pieces : pieces ≠ []) : ([separator].intercalate pieces).splitOnP p = pieces := by
  induction pieces with
  | nil => exact absurd rfl some_pieces
  | cons first rest ih =>
    obtain ⟨here, later⟩ := List.forall_mem_cons.mp closed
    cases rest with
    | nil => rw [List.intercalate_singleton, List.splitOnP_eq_singleton here]
    | cons second others =>
      rw [List.intercalate_cons_cons, List.append_assoc, List.singleton_append,
        List.splitOnP_append_cons _ _ own, List.splitOnP_eq_singleton here,
        ih later (List.cons_ne_nil _ _), List.singleton_append]

@[simp]
theorem escapeWith_append {keep : UInt8 → Bool} (a b : List Char) :
    escapeWith keep (a ++ b) = escapeWith keep a ++ escapeWith keep b := by
  rw [escapeWith, Utf8.encode_append, Percent.encodeBytes, List.flatMap_append]
  rfl

theorem escapeWith_intercalate {keep : UInt8 → Bool} {separator : Char}
    (own : escapeWith keep [separator] = [separator]) (pieces : List (List Char)) :
    escapeWith keep ([separator].intercalate pieces) =
      [separator].intercalate (pieces.map (escapeWith keep)) := by
  induction pieces with
  | nil => rfl
  | cons first rest ih =>
    cases rest with
    | nil => simp
    | cons second others =>
      simp only [List.intercalate_cons_cons, escapeWith_append, own, ih, List.map_cons]

/-- Only dots are read where a path goes up or stays. -/
theorem decode_of_isDot {piece : List Char} :
    (isDot piece = true → Percent.decodeOrKeep (String.ofList piece) = ".") ∧
      (isDoubleDot piece = true → Percent.decodeOrKeep (String.ofList piece) = "..") := by
  have dots : (∀ text ∈ [".", "%2e", "%2E"], Percent.decodeOrKeep text = ".") ∧
      ∀ text ∈ ["..", "%2e%2e", "%2e%2E", "%2E%2e", "%2E%2E", "%2e.", "%2E.", ".%2e", ".%2E"],
        Percent.decodeOrKeep text = ".." := by
    decide +kernel
  exact ⟨fun dot => dots.1 _ (List.contains_iff_mem.mp dot),
    fun dot => dots.2 _ (List.contains_iff_mem.mp dot)⟩

/-- A word is appended to a path in its escaped form. -/
theorem addPiece_word (path : List Char) (word : Word) (more : Bool) :
    addPiece .special path word.text.toList more =
      path ++ (word.escaped isPathByte ++ if more then ['/'] else []) := by
  have reads := (word.reads_escaped sparesWords_isPathByte).segment
  have no_dot : '.' ∉ word.text.toList := fun member =>
    absurd (word.plain _ member) (by decide)
  have stays : isDot (escapeWith isPathByte word.text.toList) = false := by
    refine Bool.eq_false_iff.mpr fun dot => no_dot ?_
    have same : word.text = "." := reads.symm.trans (decode_of_isDot.1 dot)
    rw [same]
    decide
  have climbs : isDoubleDot (escapeWith isPathByte word.text.toList) = false := by
    refine Bool.eq_false_iff.mpr fun dot => no_dot ?_
    have same : word.text = ".." := reads.symm.trans (decode_of_isDot.2 dot)
    rw [same]
    decide
  have special : SchemeKind.special ≠ .file := by decide
  simp only [addPiece, special, false_and, if_false, climbs, stays, Bool.false_eq_true]
  rw [List.append_assoc]
  rfl

theorem addPieces_words (path : List Char) {words : List Word} (some_words : words ≠ []) :
    addPieces .special path (words.map (·.text.toList)) =
      path ++ ['/'].intercalate (words.map (Word.escaped isPathByte)) := by
  induction words generalizing path with
  | nil => exact absurd rfl some_words
  | cons word rest ih =>
    cases rest with
    | nil =>
      change addPiece .special path word.text.toList false = _
      rw [addPiece_word, List.map_singleton, List.intercalate_singleton]
      simp
    | cons second others =>
      change addPieces .special (addPiece .special path word.text.toList true)
        ((second :: others).map (·.text.toList)) = _
      rw [addPiece_word, ih _ (List.cons_ne_nil _ _)]
      simp [List.intercalate_cons_cons]

namespace Reference

variable (reference : Reference)

/-- The path ends where the query or the fragment begins. -/
theorem not_isPathEnd_of_mem {c : Char} (member : c ∈ reference.path) :
    (!isPathEnd c) = true := by
  rcases reference.word_of_mem_path member with word | rfl
  · have mark : c ≠ '?' ∧ c ≠ '#' := by
      constructor <;>
      · rintro rfl
        cases word
    simp [isPathEnd, mark]
  · decide

theorem ends_behind_path :
    (reference.search ++ reference.mark).takeWhile (fun c => !isPathEnd c) = [] ∧
      (reference.search ++ reference.mark).dropWhile (fun c => !isPathEnd c) =
        reference.search ++ reference.mark := by
  unfold Reference.search Reference.mark
  split
  · split <;> exact ⟨rfl, rfl⟩
  · exact ⟨rfl, rfl⟩

theorem extendPath_text : extendPath .special ['/'] reference.text =
    ('/' :: ['/'].intercalate (reference.tokens.map (Word.escaped isPathByte)),
      reference.search ++ reference.mark) := by
  have before : ∀ c ∈ reference.path, (!isPathEnd c) = true :=
    fun _ => reference.not_isPathEnd_of_mem
  have front : reference.text.takeWhile (fun c => !isPathEnd c) = reference.path := by
    rw [text, List.append_assoc, List.takeWhile_append_of_pos before, reference.ends_behind_path.1,
      List.append_nil]
  have back : reference.text.dropWhile (fun c => !isPathEnd c) =
      reference.search ++ reference.mark := by
    rw [text, List.append_assoc, List.dropWhile_append_of_pos before, reference.ends_behind_path.2]
  have pieces : reference.path.splitOnP
      (fun c => c == '/' || (SchemeKind.special.isSpecial && c == '\\')) =
        reference.tokens.map (·.text.toList) := by
    refine splitOnP_intercalate (by decide) ?_ (by simpa using reference.some_tokens)
    intro piece listed c member
    obtain ⟨word, _, rfl⟩ := List.mem_map.mp listed
    simp [Word.ne_of_mem member (show isWordChar '/' = false by decide),
      Word.ne_of_mem member (show isWordChar '\\' = false by decide)]
  have special : SchemeKind.special ≠ .file := by decide
  rw [extendPath, front, back, pieces, addPieces_words _ reference.some_tokens, if_neg special]
  rfl

/-- A query is escaped word by word. -/
theorem escapeWith_query : escapeWith (isQueryByte true) reference.query =
    ['&'].intercalate (reference.pairs.map fun pair => Query.joinPair
      (pair.1.escaped (isQueryByte true), pair.2.escaped (isQueryByte true))) := by
  have sign : escapeWith (isQueryByte true) ['='] = ['='] := by decide
  rw [query, escapeWith_intercalate (by decide), List.map_map]
  refine congrArg _ (List.map_congr_left fun pair _ => ?_)
  change escapeWith _ (_ ++ (['='] ++ _)) = _
  simp only [escapeWith_append, sign]
  rfl

theorem readQuery_behind_path : readQuery true (reference.search ++ reference.mark) =
    if reference.pairs = [] then none
    else some (escapeWith (isQueryByte true) reference.query) := by
  unfold Reference.search
  split
  · unfold Reference.mark
    split <;> rfl
  · have before : ∀ c ∈ reference.query, decide (c ≠ '#') = true := by
      intro c member
      rcases reference.word_of_mem_query member with word | rfl | rfl
      · apply decide_eq_true
        rintro rfl
        cases word
      · decide
      · decide
    have behind : reference.mark.takeWhile (· ≠ '#') = [] := by
      unfold Reference.mark
      split <;> rfl
    rw [List.cons_append, readQuery, List.takeWhile_append_of_pos before, behind, List.append_nil]

theorem text_eq_cons : ∃ c rest, reference.text = c :: rest ∧ isWordChar c = true := by
  obtain ⟨word, others, tokens⟩ := List.exists_cons_of_ne_nil reference.some_tokens
  obtain ⟨c, rest, chars⟩ := List.exists_cons_of_ne_nil word.reads_text.some_left
  have first : reference.path.head? = some c := by
    rw [path, tokens]
    cases others <;> simp [chars, List.intercalate_cons_cons]
  have whole : reference.text.head? = some c := by
    rw [text, List.append_assoc, List.head?_append, first]
    rfl
  obtain ⟨more, same⟩ := List.head?_eq_some_iff.mp whole
  exact ⟨c, more, same, word.plain c (chars ▸ List.mem_cons_self)⟩

/-- As a URL a reference has the words of its path and its query, and no fragment. -/
theorem split_absolute : Url.split "http://localhost/" reference.absolute =
    (String.ofList ('/' :: ['/'].intercalate (reference.tokens.map (Word.escaped isPathByte))),
      if reference.pairs = [] then none
      else some (String.ofList (escapeWith (isQueryByte true) reference.query))) := by
  have cleaned : clean reference.absolute = '/' :: reference.text :=
    clean_of_visible reference.visible_absolute
  have no_scheme : splitScheme? ('/' :: reference.text) = none := by
    unfold splitScheme?
    split
    · rename_i same _
      rw [← (List.cons.inj same).1, if_neg (by decide)]
    · rfl
  have no_url : readAbsolute? ('/' :: reference.text) = none := by
    rw [readAbsolute?, no_scheme, Option.map_none]
  obtain ⟨c, rest, text, word⟩ := reference.text_eq_cons
  have no_slash : isSlash c = false := by
    refine Bool.eq_false_iff.mpr fun slash => ?_
    rcases Bool.or_eq_true_iff.mp slash with same | same
    all_goals
      rw [beq_iff_eq.mp same] at word
      cases word
  have kind : Url.kind ⟨"http", true, ['/'], none⟩ = .special := by decide
  have reads : readReference? ⟨"http", true, ['/'], none⟩ ('/' :: reference.text) =
      some (ofPath "http" (extendPath .special ['/'] reference.text)) := by
    rw [text, readReference?, if_neg (by decide), if_pos (by decide)]
    simp only [no_slash, kind]
    rfl
  have resolved : resolve? ⟨"http", true, ['/'], none⟩ ('/' :: reference.text) =
      some (ofPath "http" (extendPath .special ['/'] reference.text)) := by
    rw [resolve?, if_neg (by simp), if_neg (by decide), if_neg (by decide), reads]
  have special : (SchemeKind.ofScheme "http").isSpecial = true := by decide
  have parsed : parse? "http://localhost/" reference.absolute =
      some (ofPath "http" (extendPath .special ['/'] reference.text)) := by
    rw [parse?, cleaned, no_url, readAbsolute?_default]
    exact resolved
  rw [Url.split, parsed, reference.extendPath_text]
  simp only [ofPath, special, reference.readQuery_behind_path]
  split <;> rfl

end Reference

end Url

end ScopedRouting
