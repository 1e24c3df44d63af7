import Mathlib.Data.List.TakeWhile
import ScopedRouting.Proofs.Url.References
import ScopedRouting.Scope.Evaluation

/-!
# Reading both spellings of a reference

With a slash in front a reference is read as a URL, and with the relative indicator in front it is
cut at the query separator. Both have the same words and values exactly if there is no fragment.
-/
namespace ScopedRouting

theorem Dictionary.ofList_concat {α : Type} (pairs : List (String × α)) (key : String) (value : α) :
    ofList (pairs ++ [(key, value)]) = (ofList pairs).insert key value := by
  rw [ofList, List.foldl_append]
  rfl

/-- Pairs that only differ in the value of the last one do not make the same map. -/
theorem Dictionary.ofList_concat_inj {α : Type} {pairs : List (String × α)} {key : String}
    {value other : α} :
    ofList (pairs ++ [(key, value)]) = ofList (pairs ++ [(key, other)]) ↔ value = other := by
  refine ⟨fun same => ?_, congrArg fun value => ofList (pairs ++ [(key, value)])⟩
  have got := congrArg (·.get? key) same
  simpa [ofList_concat, get?_insert] using got

/-- Joining loses nothing of tokens that are read as they stand. -/
theorem Path.pieces_join {tokens : List String}
    (reads : ∀ token ∈ tokens, Url.Reads token.toList token) :
    pieces pathSeparator (join tokens) = tokens := by
  refine pieces_joinWith_of_not_mem ?_ ?_
  · intro token member inside
    exact ((reads token member).closed _ inside).1 rfl
  · rintro token member rfl
    exact (reads _ member).some_left rfl

namespace Url

theorem intercalate_concat_append {α : Type} (separator : List α) (front : List (List α))
    (last more : List α) :
    separator.intercalate (front ++ [last ++ more]) =
      separator.intercalate (front ++ [last]) ++ more := by
  induction front with
  | nil => simp
  | cons first rest ih =>
    cases rest with
    | nil => simp [List.intercalate_cons_cons]
    | cons second others =>
      simp only [List.cons_append] at ih ⊢
      rw [List.intercalate_cons_cons, List.intercalate_cons_cons, ih]
      simp

namespace Word

variable (word : Word) (reference : Reference)

theorem ne_dot : word.text ≠ "." := by
  intro same
  have dot : '.' ∈ word.text.toList := by
    rw [same]
    decide
  exact ne_of_mem dot (by decide) rfl

def piece : Piece :=
  ⟨word.text.toList, word.text, word.reads_text, word.ne_dot⟩

def escapedPiece {keep : UInt8 → Bool} (spares : SparesWords keep) : Piece :=
  ⟨word.escaped keep, word.text, word.reads_escaped spares, word.ne_dot⟩

/-- A word with the mark of a fragment behind it. -/
def marked : String :=
  String.ofList (word.text.toList ++ reference.mark)

theorem ne_of_mem_marked {c sign : Char} (member : c ∈ (word.marked reference).toList)
    (other : isWordChar sign = false) (no_mark : sign ≠ '#') : c ≠ sign := by
  rw [marked, String.toList_ofList] at member
  rcases List.mem_append.mp member with own | mark
  · exact ne_of_mem own other
  · rcases reference.word_of_mem_mark mark with plain | rfl
    · rintro rfl
      rw [plain] at other
      cases other
    · exact no_mark.symm

theorem reads_marked : Reads (word.marked reference).toList (word.marked reference) := by
  refine reads_of_plain ?_ fun c member => ?_
  · intro empty
    have nothing := String.ofList_eq_empty_iff.mp empty
    exact word.reads_text.some_left (List.append_eq_nil_iff.mp nothing).1
  · refine ⟨?_, ?_, ?_, ?_, ?_, ?_⟩ <;>
    exact word.ne_of_mem_marked reference member (by decide) (by decide)

/-- A word as a piece of a reference that its fragment is left on. -/
def markedPiece : Piece where
  chars := (word.marked reference).toList
  text := word.marked reference
  reads := word.reads_marked reference
  named := by
    intro same
    have dot : '.' ∈ (word.marked reference).toList := by
      rw [same]
      decide
    exact word.ne_of_mem_marked reference dot (by decide) (by decide) rfl

theorem marked_eq_iff : word.marked reference = word.text ↔ reference.fragment = none := by
  rw [← String.toList_inj, marked, String.toList_ofList, Reference.mark]
  split <;> simp_all

end Word

namespace Reference

variable (reference : Reference)

theorem exists_last_token : ∃ front last, reference.tokens = front ++ [last] :=
  (List.eq_nil_or_concat' reference.tokens).resolve_left reference.some_tokens

variable {reference} in
theorem markedWords_concat {front : List Word} {last : Word} (no_query : reference.pairs = [])
    (tokens : reference.tokens = front ++ [last]) :
    reference.markedWords = front.map (·.text) ++ [last.marked reference] := by
  rw [markedWords, if_pos no_query, words, tokens, List.map_append, List.map_singleton,
    List.modifyLast_concat]
  rfl

variable {reference} in
theorem markedValues_concat {front : List (Word × Word)} {key value : Word}
    (pairs : reference.pairs = front ++ [(key, value)]) :
    reference.markedValues = front.map (fun pair => (pair.1.text, pair.2.text)) ++
      [(key.text, value.marked reference)] := by
  rw [markedValues, values, pairs, List.map_append, List.map_singleton, List.modifyLast_concat]
  rfl

/-- The path of a URL is read word by word. -/
theorem parse_escaped_path : Path.parse {} (String.ofList
    ('/' :: ['/'].intercalate (reference.tokens.map (Word.escaped isPathByte)))) =
      ⟨reference.words, false⟩ := by
  have parsed := Path.parse_absolute_pieces
    (reference.tokens.map (Word.escapedPiece · sparesWords_isPathByte))
  rw [List.map_map, List.map_map] at parsed
  exact parsed

/-- The query of a URL is read pair by pair. -/
theorem parse_escaped_query :
    Query.parse (String.ofList (escapeWith (isQueryByte true) reference.query)) =
      Dictionary.ofList reference.values := by
  have parsed := Query.parse_pieces (reference.pairs.map fun pair =>
    (pair.1.escapedPiece sparesWords_isQueryByte, pair.2.escapedPiece sparesWords_isQueryByte))
  rw [List.map_map, List.map_map] at parsed
  rw [escapeWith_query]
  exact parsed

theorem reads_of_mem_words : ∀ word ∈ reference.words, Reads word.toList word := by
  intro _ member
  obtain ⟨word, _, rfl⟩ := List.mem_map.mp member
  exact word.reads_text

theorem reads_of_mem_markedWords : ∀ word ∈ reference.markedWords, Reads word.toList word := by
  by_cases no_query : reference.pairs = []
  · obtain ⟨front, last, tokens⟩ := reference.exists_last_token
    intro _ member
    rw [markedWords_concat no_query tokens] at member
    rcases List.mem_append.mp member with before | final
    · obtain ⟨word, _, rfl⟩ := List.mem_map.mp before
      exact word.reads_text
    · rw [List.mem_singleton.mp final]
      exact last.reads_marked reference
  · rw [markedWords, if_neg no_query]
    exact reference.reads_of_mem_words

/-- The pieces of the path as it stands. The fragment is left on the last one if there is no
query. -/
theorem exists_path_pieces : ∃ pieces : List Piece,
    pieces.map Piece.text = reference.markedWords ∧
      ['/'].intercalate (pieces.map Piece.chars) =
        reference.path ++ if reference.pairs = [] then reference.mark else [] := by
  by_cases no_query : reference.pairs = []
  · obtain ⟨front, last, tokens⟩ := reference.exists_last_token
    refine ⟨front.map Word.piece ++ [last.markedPiece reference], ?_, ?_⟩
    · rw [markedWords_concat no_query tokens, List.map_append, List.map_map]
      rfl
    · rw [if_pos no_query, path, tokens, List.map_append, List.map_append, List.map_map]
      have chars : (last.markedPiece reference).chars = last.text.toList ++ reference.mark :=
        String.toList_ofList
      rw [List.map_singleton, List.map_singleton, chars, intercalate_concat_append]
      rfl
  · refine ⟨reference.tokens.map Word.piece, ?_, ?_⟩
    · rw [markedWords, if_neg no_query, List.map_map]
      rfl
    · rw [if_neg no_query, List.append_nil, List.map_map]
      rfl

/-- The pairs of the query as it stands. The fragment is left on the last value. -/
theorem exists_query_pieces (some_pairs : reference.pairs ≠ []) : ∃ pieces : List (Piece × Piece),
    (pieces.map fun pair => (pair.1.text, pair.2.text)) = reference.markedValues ∧
      ['&'].intercalate (pieces.map fun pair => Query.joinPair (pair.1.chars, pair.2.chars)) =
        reference.query ++ reference.mark := by
  obtain ⟨front, ⟨key, value⟩, pairs⟩ :=
    (List.eq_nil_or_concat' reference.pairs).resolve_left some_pairs
  refine ⟨front.map (fun pair => (pair.1.piece, pair.2.piece)) ++
    [(key.piece, value.markedPiece reference)], ?_, ?_⟩
  · rw [markedValues_concat pairs, List.map_append, List.map_map]
    rfl
  · have last : Query.joinPair (key.piece.chars, (value.markedPiece reference).chars) =
        Query.joinPair (key.text.toList, value.text.toList) ++ reference.mark := by
      change _ ++ '=' :: (value.marked reference).toList = (_ ++ '=' :: _) ++ _
      rw [Word.marked, String.toList_ofList, List.append_assoc]
      rfl
    rw [query, pairs, List.map_append, List.map_append, List.map_map, List.map_singleton,
      List.map_singleton, last, intercalate_concat_append]
    rfl

theorem not_isQueryMark_of_mem {c : Char} (member : c ∈ reference.path ∨ c ∈ reference.mark) :
    (c != '?') = true := by
  rw [bne_iff_ne]
  rintro rfl
  rcases member with path | mark
  · rcases reference.word_of_mem_path path with word | slash
    · cases word
    · cases slash
  · rcases reference.word_of_mem_mark mark with word | sign
    · cases word
    · cases sign

/-- Cutting a reference at the query mark leaves the fragment behind. -/
theorem cut_text :
    reference.text.takeWhile (· != '?') =
        reference.path ++ (if reference.pairs = [] then reference.mark else []) ∧
      (reference.text.dropWhile (· != '?')).drop 1 =
        if reference.pairs = [] then [] else reference.query ++ reference.mark := by
  have before : ∀ c ∈ reference.path, (c != '?') = true :=
    fun _ member => reference.not_isQueryMark_of_mem (.inl member)
  have behind : ∀ c ∈ reference.mark, (c != '?') = true :=
    fun _ member => reference.not_isQueryMark_of_mem (.inr member)
  rw [text, List.append_assoc, List.takeWhile_append_of_pos before,
    List.dropWhile_append_of_pos before, search]
  split
  · rw [List.nil_append, List.takeWhile_eq_self_iff.mpr behind,
      List.dropWhile_eq_nil_iff.mpr behind]
    exact ⟨rfl, rfl⟩
  · exact ⟨rfl, rfl⟩

/-- Read as they stand, both spellings have the words with the fragment left on them. -/
theorem pathOf_spellings :
    Config.pathOf {} reference.absolute = ⟨reference.markedWords, false⟩ ∧
      Config.pathOf {} reference.relative = ⟨reference.markedWords, true⟩ := by
  obtain ⟨pieces, texts, chars⟩ := reference.exists_path_pieces
  constructor
  · have cut : ('/' :: reference.text).takeWhile (· != '?') =
        '/' :: reference.text.takeWhile (· != '?') := rfl
    have parsed := Path.parse_absolute_pieces pieces
    rw [texts, chars] at parsed
    rw [Config.pathOf, absolute, coerce_of_visible reference.visible_absolute,
      String.toList_ofList, cut, reference.cut_text.1]
    exact parsed
  · have cut : ('.' :: '/' :: reference.text).takeWhile (· != '?') =
        '.' :: '/' :: reference.text.takeWhile (· != '?') := rfl
    have parsed := Path.parse_relative_pieces pieces
    rw [texts, chars] at parsed
    rw [Config.pathOf, relative, coerce_of_visible reference.visible_relative,
      String.toList_ofList, cut, reference.cut_text.1]
    exact parsed

theorem queryOf_relative :
    Config.queryOf {} reference.relative = Dictionary.ofList reference.markedValues := by
  have cut : ('.' :: '/' :: reference.text).dropWhile (· != '?') =
      reference.text.dropWhile (· != '?') := rfl
  rw [Config.queryOf, relative, coerce_of_visible reference.visible_relative,
    String.toList_ofList, cut, reference.cut_text.2]
  split
  · rename_i no_query
    rw [markedValues, values, no_query]
    rfl
  · rename_i some_pairs
    obtain ⟨pieces, texts, chars⟩ := reference.exists_query_pieces some_pairs
    have parsed := Query.parse_pieces pieces
    rwa [texts, chars] at parsed

/-- As a URL the slash spelling has the words and values without the fragment. -/
theorem split_spelling :
    Path.parse {} (Url.split "http://localhost/" (Path.coerce reference.absolute)).1 =
        ⟨reference.words, false⟩ ∧
      Query.parse ((Url.split "http://localhost/" (Path.coerce reference.absolute)).2.getD "") =
        Dictionary.ofList reference.values := by
  have coerced : Path.coerce reference.absolute = reference.absolute :=
    coerce_of_visible reference.visible_absolute
  rw [coerced, split_absolute]
  refine ⟨reference.parse_escaped_path, ?_⟩
  dsimp only
  split
  · rename_i no_query
    rw [values, no_query]
    decide
  · exact reference.parse_escaped_query

/-- The fragment makes a difference wherever it is left. -/
theorem marked_iff :
    reference.markedWords = reference.words ∧
      Dictionary.ofList reference.markedValues = Dictionary.ofList reference.values ↔
        reference.fragment = none := by
  obtain ⟨front, last, tokens⟩ := reference.exists_last_token
  by_cases no_query : reference.pairs = []
  · have same_values : reference.markedValues = reference.values := by
      rw [markedValues, values, no_query]
      rfl
    rw [markedWords_concat no_query tokens, words, tokens, same_values, List.map_append,
      List.map_singleton]
    simpa using last.marked_eq_iff reference
  · obtain ⟨others, ⟨key, value⟩, pairs⟩ :=
      (List.eq_nil_or_concat' reference.pairs).resolve_left no_query
    rw [markedWords, if_neg no_query, markedValues_concat pairs, values, pairs, List.map_append,
      List.map_singleton, Dictionary.ofList_concat_inj]
    simpa using value.marked_eq_iff reference

end Reference

end Url

end ScopedRouting
