import ScopedRouting.Proofs.Dictionary.Pairs
import ScopedRouting.Query

/-!
# Queries in a row

A query string is cut into pairs before anything in it is decoded. So two of them with an ampersand
between them have the pairs of the first and then those of the second, and are read as the first
query with the second laid over it. A question mark counts at the very start only.
-/
namespace ScopedRouting

namespace Query

theorem stripMark_append (a b : List Char) :
    stripMark (a ++ '&' :: b) = stripMark a ++ '&' :: b := by
  cases a with
  | nil => rfl
  | cons c rest =>
    by_cases mark : c = '?'
    · simp [mark, stripMark]
    · simp [stripMark, mark]

/-- A query that does not begin with a question mark has none taken off. -/
theorem stripMark_of_head? {text : List Char} (unmarked : text.head? ≠ some '?') :
    stripMark text = text := by
  cases text with
  | nil => rfl
  | cons c rest => simp_all [stripMark]

theorem pairs_append (a b : List Char) : pairs (a ++ '&' :: b) = pairs a ++ pairs b := by
  simp [pairs, List.splitOn_append_cons_self]

theorem parse_append {a b : String} (unmarked : b.toList.head? ≠ some '?') :
    parse (a ++ "&" ++ b) = (parse a).overlay (parse b) := by
  have text : (a ++ "&" ++ b).toList = a.toList ++ '&' :: b.toList := by simp
  rw [parse, text, stripMark_append, pairs_append, Dictionary.ofList_append, parse, parse,
    stripMark_of_head? unmarked]

end Query

/-- Query strings with an ampersand between them are read as the first query with the second laid
over it. A query laid over another has its value wherever it has a key, and leaves every other key
as it is, so that the last pair with a key decides in every query string. Laying over is
associative, and the empty query changes nothing on either side. -/
theorem queries_in_a_row_overlay :
    (∀ a b : String, b.toList.head? ≠ some '?' →
      Query.parse (a ++ "&" ++ b) = (Query.parse a).overlay (Query.parse b)) ∧
    (∀ (a b : Query) (key : String), (a.overlay b).get? key = (b.get? key).or (a.get? key)) ∧
    (∀ text key, (Query.parse text).get? key =
      (Query.pairs (Query.stripMark text.toList)).reverse.lookup key) ∧
    (∀ a b c : Query, (a.overlay b).overlay c = a.overlay (b.overlay c)) ∧
    ∀ a : Query, Dictionary.empty.overlay a = a ∧ a.overlay .empty = a :=
  ⟨fun _ _ => Query.parse_append, Dictionary.get?_overlay,
    fun text => Dictionary.get?_ofList (Query.pairs (Query.stripMark text.toList)),
    Dictionary.overlay_assoc, fun a => ⟨a.empty_overlay, a.overlay_empty⟩⟩

/-- An escape that is cut in two at the ampersand is none, and keys that are spelled differently are
one key. -/
theorem queries_in_a_row_overlay_at_seam :
    "8&%61=2".toList.head? ≠ some '?' ∧
      Query.parse ("?a=1&b=%2" ++ "&" ++ "8&%61=2") =
        (Query.parse "?a=1&b=%2").overlay (Query.parse "8&%61=2") ∧
      (Query.parse "?a=1&b=%2&8&%61=2").entries = [("8", ""), ("a", "2"), ("b", "%2")] := by
  have unmarked : "8&%61=2".toList.head? ≠ some '?' := by decide
  exact ⟨unmarked, queries_in_a_row_overlay.1 _ _ unmarked, by decide +kernel⟩

end ScopedRouting
