import ScopedRouting.Converter
import ScopedRouting.Proofs.Path.Rereading
import ScopedRouting.Proofs.Text.Encoding

/-!
# Encoded texts as path tokens

An encoded text is made of unreserved characters and escapes, so that nothing in it separates
tokens or begins a query or a fragment. Joined to a path, each text that is not empty is one token,
which is neither trimmed nor cut.
-/
namespace ScopedRouting

namespace Percent

/-- What stands for itself in an encoded text. -/
def isUnreservedChar (c : Char) : Bool :=
  c.isAlphanum || "-_.~".toList.contains c

def isHexDigit (c : Char) : Bool :=
  c.isDigit || "ABCDEF".toList.contains c

/-- Whether a text holds unreserved characters and escapes only. -/
inductive Escaped : List Char → Prop
  | nil : Escaped []
  | plain {c : Char} {rest : List Char} : isUnreservedChar c = true → Escaped rest →
    Escaped (c :: rest)
  | escape {high low : Char} {rest : List Char} : isHexDigit high = true → isHexDigit low = true →
    Escaped rest → Escaped ('%' :: high :: low :: rest)

theorem Escaped.append {a b : List Char} (front : Escaped a) (behind : Escaped b) :
    Escaped (a ++ b) := by
  induction front with
  | nil => exact behind
  | plain unreserved _ ih => exact .plain unreserved ih
  | escape high low _ ih => exact .escape high low ih

theorem isUnreservedChar_of_isHexDigit {c : Char} (digit : isHexDigit c = true) :
    isUnreservedChar c = true := by
  rcases Bool.or_eq_true_iff.mp digit with decimal | letter
  · simp [isUnreservedChar, Char.isAlphanum, decimal]
  · have letters : "ABCDEF".toList.all isUnreservedChar = true := by decide
    exact List.all_eq_true.mp letters c (List.contains_iff_mem.mp letter)

theorem Escaped.char_cases {text : List Char} (escaped : Escaped text) :
    ∀ c ∈ text, isUnreservedChar c = true ∨ c = '%' := by
  induction escaped with
  | nil => exact List.forall_mem_nil _
  | plain unreserved _ ih => exact List.forall_mem_cons.mpr ⟨.inl unreserved, ih⟩
  | escape high low _ ih =>
    refine List.forall_mem_cons.mpr ⟨.inr rfl, List.forall_mem_cons.mpr ⟨?_, ?_⟩⟩
    · exact .inl (isUnreservedChar_of_isHexDigit high)
    · exact List.forall_mem_cons.mpr ⟨.inl (isUnreservedChar_of_isHexDigit low), ih⟩

theorem escaped_encodeByte (b : UInt8) : Escaped (encodeByte isUnreserved b) := by
  have kept : ∀ b, isUnreserved b = true → isUnreservedChar (Char.ofNat b.toNat) = true :=
    forall_byte (by decide +kernel)
  have digits : ∀ k < 16, isHexDigit (hexDigit k) = true := by decide
  have byte : b.toNat < 256 := b.toNat_lt
  unfold encodeByte
  split
  · rename_i unreserved
    exact .plain (kept b unreserved) .nil
  · exact .escape (digits _ (by omega)) (digits _ (by omega)) .nil

theorem escaped_encodeComponent (text : String) : Escaped (encodeComponent text).toList := by
  rw [encodeComponent, String.toList_ofList, encodeBytes]
  induction Utf8.encode text.toList with
  | nil => exact .nil
  | cons b rest ih => exact (escaped_encodeByte b).append ih

end Percent

namespace Path

variable {separator : Char}

theorem stripLeading_of_not_mem {text : List Char} (absent : separator ∉ text) :
    stripLeading separator text = text := by
  cases text with
  | nil => rfl
  | cons c rest => simp_all [stripLeading, eq_comm]

theorem trimSeparator_of_not_mem {text : List Char} (absent : separator ∉ text) :
    trimSeparator separator text = text := by
  rw [trimSeparator, stripLeading_of_not_mem absent,
    stripLeading_of_not_mem (by simpa using absent), List.reverse_reverse]

theorem written_of_not_mem {segment : String} (absent : separator ∉ segment.toList)
    (nonempty : segment ≠ "") : written separator segment = segment.toList ++ [separator] := by
  have some_left : segment.toList ≠ [] := mt String.toList_eq_nil_iff.mp nonempty
  obtain ⟨first, rest, same⟩ := List.exists_cons_of_ne_nil some_left
  rw [written, trimSeparator_of_not_mem absent, same]

/-- The texts of a list that are not empty, each for one encoded token. -/
theorem flatMap_encoded {β : Type} {f : String → List β} (nothing : f "" = [])
    {g : String → List β}
    (token : ∀ text, pathSeparator ∉ text.toList → text ≠ "" → f text = g text)
    (texts : List String) :
    (texts.map Percent.encodeComponent).flatMap f =
      (texts.filter (· ≠ "")).flatMap fun text => g (Percent.encodeComponent text) := by
  induction texts with
  | nil => rfl
  | cons text rest ih =>
    by_cases empty : text = ""
    · have blank : Percent.encodeComponent "" = "" := rfl
      simp [empty, blank, nothing, ih]
    · have here := token _ (Percent.slash_not_mem_encodeComponent text)
        (Percent.encodeComponent_ne_empty empty)
      simp [empty, here, ih]

theorem join_encoded (texts : List String) :
    (join (texts.map Percent.encodeComponent)).toList =
      pathSeparator :: (texts.filter (· ≠ "")).flatMap fun text =>
        (Percent.encodeComponent text).toList ++ [pathSeparator] := by
  rw [join, toList_joinWith]
  exact congrArg _ (flatMap_encoded rfl (fun _ => written_of_not_mem) texts)

theorem pieces_join_encoded (texts : List String) :
    pieces pathSeparator (join (texts.map Percent.encodeComponent)) =
      (texts.filter (· ≠ "")).map Percent.encodeComponent := by
  rw [join, pieces_joinWith, flatMap_encoded rfl (fun _ => pieces_of_not_mem) texts,
    List.map_eq_flatMap]

/-- Separators are all that joining adds to the characters of encoded texts. -/
theorem char_cases_join_encoded (texts : List String) :
    ∀ c ∈ (join (texts.map Percent.encodeComponent)).toList,
      Percent.isUnreservedChar c = true ∨ c = '%' ∨ c = '/' := by
  rw [join_encoded]
  refine List.forall_mem_cons.mpr ⟨.inr (.inr rfl), ?_⟩
  intro c member
  obtain ⟨text, _, inside⟩ := List.mem_flatMap.mp member
  rcases List.mem_append.mp inside with here | last
  · exact ((Percent.escaped_encodeComponent text).char_cases c here).imp_right .inl
  · exact .inr (.inr (List.mem_singleton.mp last))

end Path

/-- How texts are written as path tokens. What is written for a text holds unreserved characters and
escapes only, and is read as the text. In the path of a list of texts, each of them that is not
empty is one piece, in order and just as it is written, and nothing in the path begins a query or a
fragment. -/
theorem texts_are_safe_tokens :
    (∀ text : String, Percent.Escaped (Converter.text.write (.text text)).toList ∧
      Converter.text.read? (Converter.text.write (.text text)) = some (.text text)) ∧
    ∀ texts : List String,
      let joined := Path.join (texts.map fun text => Converter.text.write (.text text))
      let tokens := (texts.filter (· ≠ "")).map fun text => Converter.text.write (.text text)
      Path.pieces pathSeparator joined = tokens ∧
        joined.toList = pathSeparator :: tokens.flatMap (·.toList ++ [pathSeparator]) ∧
        '?' ∉ joined.toList ∧ '#' ∉ joined.toList := by
  refine ⟨fun text => ⟨Percent.escaped_encodeComponent text, ?_⟩, ?_⟩
  · exact congrArg (some ∘ Value.text) (Percent.decodeOrKeep_encodeComponent text)
  · intro texts joined tokens
    have written : joined.toList =
        pathSeparator :: tokens.flatMap (·.toList ++ [pathSeparator]) := by
      rw [List.flatMap_map]
      exact Path.join_encoded texts
    refine ⟨Path.pieces_join_encoded texts, written, ?_, ?_⟩
    · intro mark
      exact absurd (Path.char_cases_join_encoded texts _ mark) (by decide)
    · intro mark
      exact absurd (Path.char_cases_join_encoded texts _ mark) (by decide)

end ScopedRouting
