import Mathlib.Data.List.Basic
import ScopedRouting.Proofs.Path.Joining
import ScopedRouting.Proofs.Text.Percent

/-!
# Reading joined paths again

A joined path is cut at the same separators as its tokens are, so that what is read from it is what
is read from one token after the other. Cutting and decoding never make tokens longer, and they are
read back only if every one of them has no separator and nothing to decode.
-/
namespace ScopedRouting.Path

variable {separator : Char}

/-- The non-empty pieces of a text between separators, as lists of characters. -/
def cut (separator : Char) (text : List Char) : List (List Char) :=
  (text.splitOn separator).filter (· ≠ [])

theorem pieces_eq (separator : Char) (text : String) :
    pieces separator text = (cut separator text.toList).map String.ofList :=
  rfl

@[simp]
theorem cut_nil : cut separator [] = [] :=
  rfl

@[simp]
theorem cut_append_separator (before after : List Char) :
    cut separator (before ++ separator :: after) = cut separator before ++ cut separator after := by
  rw [cut, List.splitOn_append_cons_self, List.filter_append]
  rfl

@[simp]
theorem cut_cons_separator (text : List Char) :
    cut separator (separator :: text) = cut separator text :=
  cut_append_separator [] text

theorem cut_of_not_mem {text : List Char} (absent : separator ∉ text) (some_left : text ≠ []) :
    cut separator text = [text] := by
  rw [cut, List.splitOn_eq_singleton absent, List.filter_cons, if_pos (decide_eq_true some_left),
    List.filter_nil]

theorem mem_cut {text piece : List Char} (member : piece ∈ cut separator text) :
    separator ∉ piece ∧ piece ≠ [] := by
  induction length : text.length using Nat.strongRecOn generalizing text with
  | ind _ ih =>
    by_cases inside : separator ∈ text
    · obtain ⟨before, after, rfl⟩ := List.append_of_mem inside
      rw [List.length_append, List.length_cons] at length
      rw [cut_append_separator] at member
      rcases List.mem_append.mp member with first | later
      · exact ih before.length (by omega) first rfl
      · exact ih after.length (by omega) later rfl
    · by_cases empty : text = []
      · subst empty
        cases member
      · rw [cut_of_not_mem inside empty] at member
        cases List.mem_singleton.mp member
        exact ⟨inside, empty⟩

theorem mem_pieces {text piece : String} (member : piece ∈ pieces separator text) :
    separator ∉ piece.toList ∧ piece ≠ "" := by
  rw [pieces_eq] at member
  obtain ⟨chars, listed, rfl⟩ := List.mem_map.mp member
  obtain ⟨absent, nonempty⟩ := mem_cut listed
  rw [String.toList_ofList]
  exact ⟨absent, mt String.ofList_eq_empty_iff.mp nonempty⟩

theorem cut_stripLeading (text : List Char) :
    cut separator (stripLeading separator text) = cut separator text := by
  cases text with
  | nil => rfl
  | cons c rest =>
    rw [stripLeading]
    split
    · rename_i same
      subst same
      exact (cut_cons_separator rest).symm
    · rfl

theorem cut_trimSeparator (text : List Char) :
    cut separator (trimSeparator separator text) = cut separator text := by
  rw [trimSeparator, ← cut_stripLeading text]
  generalize stripLeading separator text = text
  rw [← List.reverse_reverse text]
  generalize text.reverse = backward
  rw [List.reverse_reverse]
  cases backward with
  | nil => rfl
  | cons c rest =>
    rw [stripLeading]
    split
    · rename_i same
      simp [same]
    · rfl

theorem cut_written (segment : String) (rest : List Char) :
    cut separator (written separator segment ++ rest) =
      cut separator segment.toList ++ cut separator rest := by
  rw [← cut_trimSeparator segment.toList, written]
  split
  · rename_i nothing
    rw [nothing]
    rfl
  · rw [List.append_assoc]
    exact cut_append_separator _ rest

@[simp]
theorem pieces_joinWith (segments : List String) :
    pieces separator (joinWith separator segments) = segments.flatMap (pieces separator) := by
  have written_pieces : cut separator (segments.flatMap (written separator)) =
      segments.flatMap fun segment => cut separator segment.toList := by
    induction segments with
    | nil => rfl
    | cons segment rest ih => simp [cut_written, ih]
  simp only [pieces_eq, toList_joinWith, cut_cons_separator, written_pieces, List.map_flatMap]
  rfl

/-- The bytes of the texts of a list. -/
def totalBytes : List String → Nat
  | [] => 0
  | text :: rest => byteCount text + totalBytes rest

@[simp]
theorem totalBytes_cons (text : String) (rest : List String) :
    totalBytes (text :: rest) = byteCount text + totalBytes rest :=
  rfl

@[simp]
theorem totalBytes_append (a b : List String) :
    totalBytes (a ++ b) = totalBytes a + totalBytes b := by
  induction a with
  | nil => exact (Nat.zero_add _).symm
  | cons text rest ih => simp [ih, Nat.add_assoc]

@[simp]
theorem byteCount_ofList (text : List Char) :
    byteCount (String.ofList text) = (Utf8.encode text).length := by
  rw [byteCount, String.toList_ofList]

theorem length_encode_append (before after : List Char) :
    (Utf8.encode (before ++ separator :: after)).length =
      (Utf8.encode before).length + ((Utf8.encodeChar separator).length +
        (Utf8.encode after).length) := by
  rw [Utf8.encode, List.flatMap_append, List.flatMap_cons, List.length_append,
    List.length_append]
  rfl

/-- Every separator is lost when a text is cut. -/
theorem bytes_cut (text : List Char) :
    totalBytes ((cut separator text).map String.ofList) ≤ (Utf8.encode text).length ∧
      (separator ∈ text →
        totalBytes ((cut separator text).map String.ofList) < (Utf8.encode text).length) := by
  induction length : text.length using Nat.strongRecOn generalizing text with
  | ind size ih =>
    by_cases member : separator ∈ text
    · obtain ⟨before, after, rfl⟩ := List.append_of_mem member
      rw [List.length_append, List.length_cons] at length
      have left := (ih before.length (by omega) before rfl).1
      have right := (ih after.length (by omega) after rfl).1
      have positive := Utf8.length_encodeChar_pos separator
      rw [cut_append_separator, List.map_append, totalBytes_append, length_encode_append]
      constructor
      · omega
      · omega
    · refine ⟨?_, fun present => absurd present member⟩
      by_cases empty : text = []
      · rw [empty]
        exact Nat.le_refl 0
      · rw [cut_of_not_mem member empty, List.map_singleton, totalBytes_cons, byteCount_ofList]
        exact Nat.le_refl _

/-- What is read from a text: its pieces, decoded. -/
def reread (text : String) : List String :=
  (pieces pathSeparator text).map Percent.decodeOrKeep

theorem totalBytes_decoded (texts : List String) :
    totalBytes (texts.map Percent.decodeOrKeep) ≤ totalBytes texts := by
  induction texts with
  | nil => exact Nat.le_refl 0
  | cons text rest ih =>
    rw [List.map_cons, totalBytes_cons, totalBytes_cons]
    rcases Percent.byteCount_decodeOrKeep text with shorter | same
    · omega
    · rw [same]
      omega

/-- Whether a token is read as it stands: it has no separator and nothing to decode. -/
def Stable (token : String) : Prop :=
  pathSeparator ∉ token.toList ∧ Percent.decodeOrKeep token = token

theorem pieces_of_not_mem {token : String} (absent : separator ∉ token.toList)
    (nonempty : token ≠ "") : pieces separator token = [token] := by
  have some_left : token.toList ≠ [] := mt String.toList_eq_nil_iff.mp nonempty
  rw [pieces_eq, cut_of_not_mem absent some_left, List.map_singleton, String.ofList_toList]

/-- Joining loses no segment that is one piece. -/
theorem pieces_joinWith_of_not_mem {segments : List String}
    (closed : ∀ segment ∈ segments, separator ∉ segment.toList)
    (nonempty : ∀ segment ∈ segments, segment ≠ "") :
    pieces separator (joinWith separator segments) = segments := by
  have single : ∀ segment ∈ segments, pieces separator segment = [segment] :=
    fun segment member => pieces_of_not_mem (closed segment member) (nonempty segment member)
  simp [List.flatMap_congr single]

theorem reread_of_stable {token : String} (stable : Stable token) (nonempty : token ≠ "") :
    reread token = [token] := by
  rw [reread, pieces_of_not_mem stable.1 nonempty, List.map_singleton, stable.2]

theorem flatMap_reread_of_stable {tokens : List String} (stable : ∀ token ∈ tokens, Stable token)
    (nonempty : ∀ token ∈ tokens, token ≠ "") : tokens.flatMap reread = tokens := by
  have single : ∀ token ∈ tokens, reread token = [token] :=
    fun token member => reread_of_stable (stable token member) (nonempty token member)
  rw [List.flatMap_congr single, List.flatMap_singleton']

/-- A token that is not read as it stands loses bytes. -/
theorem bytes_reread {token : String} (nonempty : token ≠ "") :
    totalBytes (reread token) < byteCount token ∨ Stable token := by
  by_cases member : pathSeparator ∈ token.toList
  · have shorter := (bytes_cut token.toList).2 member
    exact .inl (Nat.lt_of_le_of_lt (totalBytes_decoded _) shorter)
  · rw [reread, pieces_of_not_mem member nonempty, List.map_singleton, totalBytes_cons]
    rcases Percent.byteCount_decodeOrKeep token with shorter | same
    · exact .inl shorter
    · exact .inr ⟨member, same⟩

theorem bytes_reread_all {tokens : List String} (nonempty : ∀ token ∈ tokens, token ≠ "") :
    totalBytes (tokens.flatMap reread) < totalBytes tokens ∨ ∀ token ∈ tokens, Stable token := by
  induction tokens with
  | nil => exact .inr fun _ member => nomatch member
  | cons token rest ih =>
    have token_nonempty := nonempty token List.mem_cons_self
    have rest_nonempty : ∀ other ∈ rest, other ≠ "" := fun other member =>
      nonempty other (List.mem_cons_of_mem token member)
    simp only [List.flatMap_cons, totalBytes_append, totalBytes_cons]
    rcases bytes_reread token_nonempty with shorter | stable
    · rcases ih rest_nonempty with others | others
      · exact .inl (by omega)
      · rw [flatMap_reread_of_stable others rest_nonempty]
        exact .inl (by omega)
    · rw [reread_of_stable stable token_nonempty]
      rcases ih rest_nonempty with others | others
      · refine .inl ?_
        change byteCount token + 0 + _ < _
        omega
      · exact .inr (List.forall_mem_cons.mpr ⟨stable, others⟩)

theorem parse_join (indicator : String) (tokens : List String) :
    parse { relativeIndicator := indicator } (join tokens) =
      ofTokens indicator (tokens.flatMap reread) := by
  rw [parse, join]
  change ofTokens indicator ((pieces pathSeparator _).map _) = _
  rw [pieces_joinWith, List.map_flatMap]
  rfl

/-- Tokens are read back from their joined text only if each is read as it stands and the first is
not the relative indicator. -/
theorem segments_parse_join_iff {indicator : String} {tokens : List String}
    (nonempty : ∀ token ∈ tokens, token ≠ "") :
    (parse { relativeIndicator := indicator } (join tokens)).segments = tokens ↔
      (∀ token ∈ tokens, Stable token) ∧ tokens.head? ≠ some indicator := by
  rw [parse_join]
  constructor
  · intro same
    have stable : ∀ token ∈ tokens, Stable token := by
      rcases bytes_reread_all nonempty with shorter | stable
      · have kept : totalBytes tokens ≤ totalBytes (tokens.flatMap reread) := by
          generalize tokens.flatMap reread = read at same
          cases read with
          | nil =>
            cases same
            exact Nat.le_refl _
          | cons first rest =>
            rw [ofTokens] at same
            split at same
            · rw [totalBytes_cons, ← same]
              exact Nat.le_add_left _ _
            · exact Nat.le_of_eq (congrArg totalBytes same.symm)
        exact absurd shorter (Nat.not_lt_of_le kept)
      · exact stable
    refine ⟨stable, ?_⟩
    rw [flatMap_reread_of_stable stable nonempty] at same
    cases tokens with
    | nil => exact fun first => nomatch first
    | cons first rest =>
      intro equal
      rw [ofTokens, if_pos (Option.some.inj equal)] at same
      exact absurd (congrArg List.length same) (Nat.ne_of_lt (Nat.lt_succ_self _))
  · rintro ⟨stable, absolute⟩
    rw [flatMap_reread_of_stable stable nonempty]
    cases tokens with
    | nil => rfl
    | cons first rest =>
      rw [ofTokens, if_neg]
      intro same
      exact absolute (congrArg some same)

/-- The segments of a path that is read are not empty. -/
theorem nonempty_of_parse {options : Options} {text : String} :
    ∀ token ∈ (parse options text).segments, token ≠ "" := by
  have decoded : ∀ token ∈ (pieces options.separator text).map Percent.decodeOrKeep,
      token ≠ "" := by
    intro token member
    obtain ⟨piece, listed, rfl⟩ := List.mem_map.mp member
    exact Percent.decodeOrKeep_ne_empty (mem_pieces listed).2
  rw [parse]
  generalize (pieces options.separator text).map Percent.decodeOrKeep = tokens at decoded
  intro token member
  cases tokens with
  | nil => cases member
  | cons first rest =>
    rw [ofTokens] at member
    split at member
    · exact decoded token (List.mem_cons_of_mem first member)
    · exact decoded token member

end ScopedRouting.Path
