import Mathlib.Logic.Relation
import ScopedRouting.Proofs.Path.Rereading
import ScopedRouting.Proofs.Template.Clauses
import ScopedRouting.Proofs.Template.WellFormed

/-!
# The grammar of templates

A token of a template is a marker where it may stand, literal text, or a dynamic segment that is
well-formed. A template compiles if all its tokens are such, and to one segment for each token that
is no marker. Otherwise the first token that is not decides the error. Slashes that only make more
empty pieces change nothing but the text of the template that is kept.
-/
namespace ScopedRouting.Template

open Dialect

variable {regexes : RegexReader}

namespace Token

/-- What a token that is no marker stands for. -/
inductive Denotes (regexes : RegexReader) : String → Segment → Prop
  | literal {text : String} (relative : text ≠ "~") (wildcard : text ≠ "*")
      (plain : text.toList.head? ≠ some ':') : Denotes regexes text (.literal text)
  | value {text : String} {clause : Clause} (parsed : Clause.parse text = .ok clause)
      (wellFormed : clause.WellFormed regexes) :
      Denotes regexes (":" ++ text) (.value (clause.segment regexes))

/-- Whether a token may stand at a place of a template with so many tokens. -/
def Fits (regexes : RegexReader) (count index : Nat) (token : String) : Prop :=
  (token = "~" ∧ index = 0) ∨ (token = "*" ∧ index + 1 = count) ∨
    ∃ segment, Denotes regexes token segment

/-- What is wrong with a token at a place of a template. -/
inductive Fault (regexes : RegexReader) (template : String) (count index : Nat) :
    String → Error → Prop
  | late (behind : index ≠ 0) :
      Fault regexes template count index "~" (.relativeNotFirst template)
  | early (more : index + 1 ≠ count) :
      Fault regexes template count index "*" (.wildcardNotLast template)
  | unread {text : String} {fault : Error} (refused : Clause.parse text = .error fault) :
      Fault regexes template count index (":" ++ text) fault
  | malformed {text : String} {clause : Clause} {fault : Error}
      (parsed : Clause.parse text = .ok clause) (faulty : clause.Fault regexes fault) :
      Fault regexes template count index (":" ++ text) fault

@[simp]
theorem toList_colon (text : String) : (":" ++ text).toList = ':' :: text.toList := by
  rw [String.toList_append]
  rfl

/-- A token is a marker, a dynamic segment or plain text. -/
theorem shape (text : String) :
    text = "~" ∨ text = "*" ∨ (∃ clause, text = ":" ++ clause) ∨
      (text ≠ "~" ∧ text ≠ "*" ∧ text.toList.head? ≠ some ':') := by
  by_cases relative : text = "~"
  · exact .inl relative
  by_cases wildcard : text = "*"
  · exact .inr (.inl wildcard)
  by_cases value : text.toList.head? = some ':'
  · obtain ⟨clause, chars⟩ := List.head?_eq_some_iff.mp value
    refine .inr (.inr (.inl ⟨String.ofList clause, String.toList_injective ?_⟩))
    simp [chars]
  · exact .inr (.inr (.inr ⟨relative, wildcard, value⟩))

theorem parse_value (text : String) :
    Token.parse (":" ++ text) = (Clause.parse text).map .value := by
  rw [Token.parse, toList_colon]
  exact congrArg (fun clause => (Clause.parse clause).map Token.value) String.ofList_toList

theorem parse_plain {text : String} (relative : text ≠ "~") (wildcard : text ≠ "*")
    (plain : text.toList.head? ≠ some ':') : Token.parse text = .ok (.literal text) := by
  unfold Token.parse
  split
  · rename_i chars
    exact absurd (String.toList_injective chars) relative
  · rename_i chars
    exact absurd (String.toList_injective chars) wildcard
  · rename_i chars
    rw [chars] at plain
    exact absurd rfl plain
  · rfl

variable {template token : String} {count index : Nat} {segment : Segment} {fault : Error}

theorem Denotes.compileToken (denotes : Denotes regexes token segment) :
    (reading regexes).compileToken template count index token = .ok segment := by
  cases denotes with
  | literal relative wildcard plain =>
    rw [Dialect.compileToken, parse_plain relative wildcard plain]
    rfl
  | value parsed wellFormed =>
    rw [Dialect.compileToken, parse_value, parsed]
    change ((reading regexes).compileValue _).map Segment.value = _
    rw [wellFormed.compileValue]
    rfl

/-- Whatever the template is, a token that fits compiles to the same segment. -/
theorem Fits.exists_compileToken (fits : Fits regexes count index token) :
    ∃ segment, ∀ template,
      (reading regexes).compileToken template count index token = .ok segment := by
  rcases fits with ⟨rfl, first⟩ | ⟨rfl, last⟩ | ⟨segment, denotes⟩
  · exact ⟨.relative, fun _ => if_pos first⟩
  · exact ⟨.wildcard, fun _ => if_pos last⟩
  · exact ⟨segment, fun _ => denotes.compileToken⟩

theorem Fault.compileToken (faulty : Fault regexes template count index token fault) :
    (reading regexes).compileToken template count index token = .error fault := by
  cases faulty with
  | late behind => exact if_neg behind
  | early more => exact if_neg more
  | unread refused =>
    rw [Dialect.compileToken, parse_value, refused]
    rfl
  | malformed parsed faulty =>
    rw [Dialect.compileToken, parse_value, parsed]
    change ((reading regexes).compileValue _).map Segment.value = _
    rw [faulty.compileValue]
    rfl

/-- What does not fit is at fault. -/
theorem fits_or_fault (regexes : RegexReader) (template : String) (count index : Nat)
    (token : String) :
    Fits regexes count index token ∨ ∃ fault, Fault regexes template count index token fault := by
  rcases shape token with rfl | rfl | ⟨text, rfl⟩ | ⟨relative, wildcard, plain⟩
  · by_cases first : index = 0
    · exact .inl (.inl ⟨rfl, first⟩)
    · exact .inr ⟨_, .late first⟩
  · by_cases last : index + 1 = count
    · exact .inl (.inr (.inl ⟨rfl, last⟩))
    · exact .inr ⟨_, .early last⟩
  · cases parsed : Clause.parse text with
    | error fault => exact .inr ⟨fault, .unread parsed⟩
    | ok clause =>
      rcases clause.wellFormed_or_fault regexes with wellFormed | ⟨fault, faulty⟩
      · exact .inl (.inr (.inr ⟨_, .value parsed wellFormed⟩))
      · exact .inr ⟨fault, .malformed parsed faulty⟩
  · exact .inl (.inr (.inr ⟨_, .literal relative wildcard plain⟩))

theorem Fits.not_fault (fits : Fits regexes count index token) :
    ¬ Fault regexes template count index token fault := by
  intro faulty
  obtain ⟨segment, compiled⟩ := fits.exists_compileToken
  cases (compiled template).symm.trans faulty.compileToken

theorem fits_of_compileToken
    (h : (reading regexes).compileToken template count index token = .ok segment) :
    Fits regexes count index token := by
  rcases fits_or_fault regexes template count index token with fits | ⟨fault, faulty⟩
  · exact fits
  · cases h.symm.trans faulty.compileToken

/-- Whether tokens may stand one behind the other from a place on. -/
def FitFrom (regexes : RegexReader) (count index : Nat) (tokens : List String) : Prop :=
  ∀ place token, tokens[place]? = some token → Fits regexes count (index + place) token

theorem fitFrom_cons {rest : List String} :
    FitFrom regexes count index (token :: rest) ↔
      Fits regexes count index token ∧ FitFrom regexes count (index + 1) rest := by
  constructor
  · intro fit
    refine ⟨fit 0 token rfl, fun place later here => ?_⟩
    rw [Nat.add_right_comm]
    exact fit (place + 1) later here
  · rintro ⟨first, others⟩ place later here
    cases place with
    | zero =>
      cases here
      exact first
    | succ place =>
      rw [← Nat.add_assoc, Nat.add_right_comm]
      exact others place later here

theorem fitFrom_take {tokens : List String} {place : Nat} :
    FitFrom regexes count index (tokens.take place) ↔ ∀ earlier token, earlier < place →
      tokens[earlier]? = some token → Fits regexes count (index + earlier) token := by
  constructor
  · intro fit earlier token before here
    refine fit earlier token ?_
    rw [List.getElem?_take_of_lt before]
    exact here
  · intro each earlier token here
    rw [List.getElem?_take] at here
    split at here
    · rename_i before
      exact each earlier token before here
    · cases here

end Token

open Token

/-- The tokens of a template. -/
def tokensOf (template : String) : List String :=
  Path.pieces pathSeparator template

theorem compile_eq (regexes : RegexReader) (template : String) :
    (reading regexes).compile template =
      ((reading regexes).compileTokens template (tokensOf template).length 0
        (tokensOf template)).map (Route.ofSegments template) :=
  rfl

variable {template : String} {count index : Nat} {tokens : List String} {fault : Error}

theorem exists_compileTokens_iff :
    (∃ segments, (reading regexes).compileTokens template count index tokens = .ok segments) ↔
      FitFrom regexes count index tokens := by
  induction tokens generalizing index with
  | nil =>
    constructor
    · rintro _ place token here
      cases here
    · intro _
      exact ⟨[], rfl⟩
  | cons token rest ih =>
    rw [fitFrom_cons, ← ih]
    constructor
    · rintro ⟨segments, h⟩
      obtain ⟨segment, others, first, later, _⟩ := compileTokens_cons h
      exact ⟨fits_of_compileToken first, others, later⟩
    · rintro ⟨fits, others, later⟩
      obtain ⟨segment, first⟩ := fits.exists_compileToken
      exact ⟨segment :: others, by rw [Dialect.compileTokens, first template, later]; rfl⟩

/-- The first token that does not fit decides the error. -/
theorem compileTokens_eq_error_iff :
    (reading regexes).compileTokens template count index tokens = .error fault ↔
      ∃ place token, tokens[place]? = some token ∧
        Token.Fault regexes template count (index + place) token fault ∧
        FitFrom regexes count index (tokens.take place) := by
  induction tokens generalizing index with
  | nil =>
    constructor
    · intro h
      cases h
    · rintro ⟨place, token, here, _⟩
      cases here
  | cons token rest ih =>
    rcases fits_or_fault regexes template count index token with fits | ⟨found, faulty⟩
    · obtain ⟨segment, first⟩ := fits.exists_compileToken
      have step :
          (reading regexes).compileTokens template count index (token :: rest) = .error fault ↔
            (reading regexes).compileTokens template count (index + 1) rest = .error fault := by
        rw [Dialect.compileTokens, first template]
        cases (reading regexes).compileTokens template count (index + 1) rest with
        | ok segments => exact ⟨nofun, nofun⟩
        | error found => exact Iff.rfl
      have shifted : ∀ place, index + (place + 1) = index + 1 + place := fun place => by omega
      rw [step, ih]
      constructor
      · rintro ⟨place, later, here, faulty, before⟩
        rw [← shifted] at faulty
        exact ⟨place + 1, later, here, faulty, fitFrom_cons.mpr ⟨fits, before⟩⟩
      · rintro ⟨place, later, here, faulty, before⟩
        cases place with
        | zero =>
          cases here
          exact False.elim (fits.not_fault faulty)
        | succ place =>
          rw [shifted] at faulty
          exact ⟨place, later, here, faulty, (fitFrom_cons.mp before).2⟩
    · have step :
          (reading regexes).compileTokens template count index (token :: rest) = .error found := by
        rw [Dialect.compileTokens, faulty.compileToken]
        rfl
      rw [step]
      constructor
      · intro same
        cases same
        exact ⟨0, token, rfl, faulty, fun place _ here => by cases here⟩
      · rintro ⟨place, later, here, other, before⟩
        cases place with
        | zero =>
          cases here
          cases faulty.compileToken.symm.trans other.compileToken
          rfl
        -- A later fault does not count, for the token before it does not fit.
        | succ place => exact False.elim ((fitFrom_cons.mp before).1.not_fault faulty)

/-- What stands for a marker or denotes something. -/
theorem Dialect.CompilesTo.cases {token : String} {segment : Segment}
    (compiles : (reading regexes).CompilesTo token segment) :
    (token = "~" ∧ segment = .relative) ∨ (token = "*" ∧ segment = .wildcard) ∨
      Denotes regexes token segment := by
  obtain ⟨template, count, index, h⟩ := compiles
  rcases fits_of_compileToken h with ⟨rfl, first⟩ | ⟨rfl, last⟩ | ⟨other, denotes⟩
  · cases h.symm.trans (if_pos first)
    exact .inl ⟨rfl, rfl⟩
  · cases h.symm.trans (if_pos last)
    exact .inr (.inl ⟨rfl, rfl⟩)
  · cases h.symm.trans denotes.compileToken
    exact .inr (.inr denotes)

theorem Token.Denotes.unmarked {token : String} {segment : Segment}
    (denotes : Denotes regexes token segment) :
    token ∉ ["~", "*"] ∧ segment ≠ .relative ∧ segment ≠ .wildcard := by
  cases denotes with
  | literal relative wildcard _ => exact ⟨by simp [relative, wildcard], nofun, nofun⟩
  | @value text _ _ _ =>
    refine ⟨fun member => ?_, nofun, nofun⟩
    have chars := List.mem_map_of_mem (f := String.toList) member
    simp at chars

theorem Dialect.CompilesTo.marker_iff {token : String} {segment : Segment}
    (compiles : (reading regexes).CompilesTo token segment) :
    (token = "~" ↔ segment = .relative) ∧ (token = "*" ↔ segment = .wildcard) := by
  rcases compiles.cases with ⟨rfl, rfl⟩ | ⟨rfl, rfl⟩ | denotes
  · simp
  · simp
  · obtain ⟨unmarked, no_relative, no_wildcard⟩ := denotes.unmarked
    simp only [List.mem_cons, List.not_mem_nil, or_false, not_or] at unmarked
    simp [unmarked, no_relative, no_wildcard]

theorem Dialect.CompilesTo.denotes {token : String} {segment : Segment}
    (compiles : (reading regexes).CompilesTo token segment) (readable : segment.Readable) :
    Denotes regexes token segment := by
  rcases compiles.cases with ⟨_, rfl⟩ | ⟨_, rfl⟩ | denotes
  · exact False.elim readable
  · exact False.elim readable
  · exact denotes

theorem head?_iff_of_forall₂ {α β : Type} {related : α → β → Prop} {as : List α} {bs : List β}
    {a : α} {b : β} (pairs : List.Forall₂ related as bs)
    (each : ∀ x y, related x y → (x = a ↔ y = b)) : as.head? = some a ↔ bs.head? = some b := by
  cases pairs with
  | nil => exact ⟨nofun, nofun⟩
  | cons first _ => simpa using each _ _ first

theorem getLast?_iff_of_forall₂ {α β : Type} {related : α → β → Prop} {as : List α} {bs : List β}
    {a : α} {b : β} (pairs : List.Forall₂ related as bs)
    (each : ∀ x y, related x y → (x = a ↔ y = b)) :
    as.getLast? = some a ↔ bs.getLast? = some b := by
  rw [List.getLast?_eq_head?_reverse, List.getLast?_eq_head?_reverse]
  exact head?_iff_of_forall₂ (List.forall₂_reverse_iff.mpr pairs) each

section Framed

variable {relative wildcard : Bool} {inner : List Segment}

theorem head?_framed (readable : ∀ segment ∈ inner, segment.Readable) :
    (Segment.framed relative wildcard inner).head? = some .relative ↔ relative = true := by
  cases relative with
  | true => exact ⟨fun _ => rfl, fun _ => rfl⟩
  | false =>
    refine ⟨fun head => ?_, fun same => absurd same Bool.false_ne_true⟩
    have member := List.mem_of_head? head
    simp only [Segment.framed, Bool.false_eq_true, if_false, List.nil_append,
      List.mem_append] at member
    rcases member with member | member
    · exact False.elim (readable _ member)
    · cases wildcard <;> simp at member

theorem getLast?_framed (readable : ∀ segment ∈ inner, segment.Readable) :
    (Segment.framed relative wildcard inner).getLast? = some .wildcard ↔ wildcard = true := by
  cases wildcard with
  | true =>
    refine ⟨fun _ => rfl, fun _ => ?_⟩
    rw [Segment.framed, if_pos rfl, ← List.append_assoc, List.getLast?_concat]
  | false =>
    refine ⟨fun last => ?_, fun same => absurd same Bool.false_ne_true⟩
    have member := List.mem_of_getLast? last
    simp only [Segment.framed, Bool.false_eq_true, if_false, List.append_nil,
      List.mem_append] at member
    rcases member with member | member
    · cases relative <;> simp at member
    · exact False.elim (readable _ member)

theorem denotes_of_append (readable : ∀ segment ∈ inner, segment.Readable) {tokens : List String}
    (pairs : List.Forall₂ (reading regexes).CompilesTo tokens
      (inner ++ if wildcard then [.wildcard] else [])) :
    List.Forall₂ (Denotes regexes) (tokens.filter (· ∉ ["~", "*"])) inner := by
  induction inner generalizing tokens with
  | nil =>
    cases wildcard with
    | false =>
      cases pairs
      exact .nil
    | true =>
      obtain ⟨token, rest, compiles, others, rfl⟩ := List.forall₂_cons_right_iff.mp pairs
      cases others
      rw [compiles.marker_iff.2.mpr rfl]
      exact .nil
  | cons segment rest ih =>
    obtain ⟨here, later⟩ := List.forall_mem_cons.mp readable
    obtain ⟨token, others, compiles, behind, rfl⟩ := List.forall₂_cons_right_iff.mp pairs
    have denotes := compiles.denotes here
    rw [List.filter_cons, if_pos (decide_eq_true denotes.unmarked.1)]
    exact .cons denotes (ih later behind)

/-- The markers are dropped on both sides. -/
theorem denotes_of_framed (readable : ∀ segment ∈ inner, segment.Readable)
    (pairs : List.Forall₂ (reading regexes).CompilesTo tokens
      (Segment.framed relative wildcard inner)) :
    List.Forall₂ (Denotes regexes) (tokens.filter (· ∉ ["~", "*"])) inner := by
  cases relative with
  | false => exact denotes_of_append readable pairs
  | true =>
    obtain ⟨token, others, compiles, behind, rfl⟩ := List.forall₂_cons_right_iff.mp pairs
    rw [compiles.marker_iff.1.mpr rfl, List.filter_cons, if_neg (by decide)]
    exact denotes_of_append readable behind

end Framed

/-- The error with another template, if it is about one. -/
def Error.retitled (template : String) : Error → Error
  | .relativeNotFirst _ => .relativeNotFirst template
  | .wildcardNotLast _ => .wildcardNotLast template
  | fault => fault

theorem Clause.retitled_of_parse {text : String} {fault : Error}
    (h : Clause.parse text = .error fault) (template : String) :
    fault.retitled template = fault := by
  rcases Form.refused_of_parse h with rfl | rfl | rfl | ⟨args, rfl⟩
  · rfl
  · rfl
  · rfl
  · rfl

theorem Clause.Fault.retitled {clause : Clause} {fault : Error}
    (faulty : clause.Fault regexes fault) (template : String) : fault.retitled template = fault := by
  cases faulty <;> rfl

/-- Only the faults of markers are about the template. -/
theorem Token.Fault.retitled {token : String}
    (faulty : Token.Fault regexes template count index token fault) (other : String) :
    Token.Fault regexes other count index token (fault.retitled other) := by
  cases faulty with
  | late behind => exact .late behind
  | early more => exact .early more
  | unread refused =>
    rw [Clause.retitled_of_parse refused other]
    exact .unread refused
  | malformed parsed faulty =>
    rw [faulty.retitled other]
    exact .malformed parsed faulty

theorem compileToken_retitled (template other token : String) :
    (reading regexes).compileToken other count index token =
      ((reading regexes).compileToken template count index token).mapError
        (Error.retitled other) := by
  rcases fits_or_fault regexes template count index token with fits | ⟨fault, faulty⟩
  · obtain ⟨segment, compiled⟩ := fits.exists_compileToken
    rw [compiled other, compiled template]
    rfl
  · rw [faulty.compileToken, (faulty.retitled other).compileToken]
    rfl

theorem compileTokens_retitled (template other : String) :
    (reading regexes).compileTokens other count index tokens =
      ((reading regexes).compileTokens template count index tokens).mapError
        (Error.retitled other) := by
  induction tokens generalizing index with
  | nil => rfl
  | cons token rest ih =>
    rw [Dialect.compileTokens, Dialect.compileTokens, ih, compileToken_retitled template]
    cases (reading regexes).compileToken template count index token with
    | error _ => rfl
    | ok _ =>
      cases (reading regexes).compileTokens template count (index + 1) rest with
      | error _ => rfl
      | ok _ => rfl

/-- What becomes of a result if only the text of the template is another. -/
def retitled (template : String) : Except Error Route → Except Error Route
  | .ok route => .ok { route with template }
  | .error fault => .error (fault.retitled template)

theorem compile_of_same_tokens {other : String} (same : tokensOf other = tokensOf template) :
    (reading regexes).compile other = retitled other ((reading regexes).compile template) := by
  rw [compile_eq, compile_eq, same, compileTokens_retitled template other]
  cases (reading regexes).compileTokens template (tokensOf template).length 0
    (tokensOf template) with
  | error _ => rfl
  | ok _ => rfl

/-- Whether a slash is added that makes one more empty piece. -/
inductive ExtraSlash : List Char → List Char → Prop
  | leading (text : List Char) : ExtraSlash text ('/' :: text)
  | trailing (text : List Char) : ExtraSlash text (text ++ ['/'])
  | doubled (before after : List Char) :
      ExtraSlash (before ++ '/' :: after) (before ++ '/' :: '/' :: after)

theorem ExtraSlash.cut_eq {text other : List Char} (extra : ExtraSlash text other) :
    Path.cut pathSeparator other = Path.cut pathSeparator text := by
  cases extra with
  | leading text => exact Path.cut_cons_separator text
  | trailing text =>
    exact (Path.cut_append_separator text []).trans (List.append_nil _)
  | doubled before after =>
    have once := @Path.cut_append_separator pathSeparator before after
    have twice := @Path.cut_append_separator pathSeparator before (pathSeparator :: after)
    rw [Path.cut_cons_separator] at twice
    exact twice.trans once.symm

/-- Slashes that only make more empty pieces leave the tokens as they are. -/
theorem tokensOf_of_extraSlashes {other : String}
    (extra : Relation.ReflTransGen ExtraSlash template.toList other.toList) :
    tokensOf other = tokensOf template := by
  rw [tokensOf, tokensOf, Path.pieces_eq, Path.pieces_eq]
  generalize other.toList = slashed at extra
  induction extra with
  | refl => rfl
  | tail _ last ih => rw [last.cut_eq, ih]

/-- What is a template, and what it is compiled to. All tokens must fit in their places. Then the
flags of the route tell of the markers at both ends, and its segments are what the other tokens
denote, one by one. Where a token does not fit, the error is that of the first one, and there is no
other error. Slashes that only make more empty pieces change the text that is kept in a route or
shown in an error, and nothing else. All this holds for any reader of expressions, which decides
only what is an expression. -/
theorem compile_follows_grammar (regexes : RegexReader) (template : String) :
    ((∃ route, (reading regexes).compile template = .ok route) ↔
      ∀ index token, (tokensOf template)[index]? = some token →
        Token.Fits regexes (tokensOf template).length index token) ∧
    (∀ route, (reading regexes).compile template = .ok route →
      route.template = template ∧
      (route.relative = true ↔ (tokensOf template).head? = some "~") ∧
      (route.wildcard = true ↔ (tokensOf template).getLast? = some "*") ∧
      List.Forall₂ (Token.Denotes regexes) ((tokensOf template).filter (· ∉ ["~", "*"]))
        route.segments) ∧
    (∀ fault, (reading regexes).compile template = .error fault ↔
      ∃ index token, (tokensOf template)[index]? = some token ∧
        Token.Fault regexes template (tokensOf template).length index token fault ∧
        ∀ earlier before, earlier < index → (tokensOf template)[earlier]? = some before →
          Token.Fits regexes (tokensOf template).length earlier before) ∧
    ∀ other : String, Relation.ReflTransGen ExtraSlash template.toList other.toList →
      (reading regexes).compile other = retitled other ((reading regexes).compile template) := by
  refine ⟨?_, ?_, ?_, fun _ extra => compile_of_same_tokens (tokensOf_of_extraSlashes extra)⟩
  · have compiles := @exists_compileTokens_iff regexes template (tokensOf template).length 0
      (tokensOf template)
    simp only [FitFrom, Nat.zero_add] at compiles
    rw [← compiles]
    constructor
    · rintro ⟨route, h⟩
      obtain ⟨segments, compiled, _⟩ := exists_ok_of_map_ok h
      exact ⟨segments, compiled⟩
    · rintro ⟨segments, compiled⟩
      exact ⟨Route.ofSegments template segments, by rw [compile_eq, compiled]; rfl⟩
  · intro route h
    obtain ⟨readable, pairs⟩ := (faithful_reading regexes).framed_of_compile h
    obtain ⟨segments, _, same⟩ := exists_ok_of_map_ok h
    refine ⟨by rw [← same]; rfl, ?_, ?_, denotes_of_framed readable pairs⟩
    · rw [← head?_framed readable]
      exact (head?_iff_of_forall₂ pairs fun _ _ compiles => compiles.marker_iff.1).symm
    · rw [← getLast?_framed readable]
      exact (getLast?_iff_of_forall₂ pairs fun _ _ compiles => compiles.marker_iff.2).symm
  · intro fault
    have faulty := @compileTokens_eq_error_iff regexes template (tokensOf template).length 0
      (tokensOf template) fault
    simp only [fitFrom_take, Nat.zero_add] at faulty
    rw [← faulty, compile_eq]
    cases (reading regexes).compileTokens template (tokensOf template).length 0
      (tokensOf template) with
    | error found => exact ⟨fun same => by cases same; rfl, fun same => by cases same; rfl⟩
    | ok segments => exact ⟨nofun, nofun⟩

/-- A template that compiles, with and without extra slashes, and one with several tokens at
fault. -/
theorem compile_follows_grammar_of_door :
    (∃ route, standard.compile "~/door/:!open<yes|no>?no/*" = .ok route ∧
      route.relative = true ∧ route.wildcard = true ∧
      List.Forall₂ (Token.Denotes .standard) ["door", ":!open<yes|no>?no"] route.segments ∧
      standard.compile "~/door//:!open<yes|no>?no/*/" =
        .ok { route with template := "~/door//:!open<yes|no>?no/*/" }) ∧
    standard.compile "/door/~/:!open<yes>" = .error (.relativeNotFirst "/door/~/:!open<yes>") := by
  have parsed : Clause.parse "!open<yes|no>?no" =
      .ok ⟨"!open", .choice ["yes", "no"], .defaulted "no"⟩ := by
    decide
  have wellFormed :
      (⟨"!open", .choice ["yes", "no"], .defaulted "no"⟩ : Clause).WellFormed .standard := by
    refine ⟨fun _ words choice => ?_, by decide, nofun, fun literal default => ?_⟩
    · cases choice
      rfl
    · cases default
      decide
  have door : Denotes .standard "door" (.literal "door") :=
    .literal (by decide) (by decide) (by decide)
  constructor
  · have tokens : tokensOf "~/door/:!open<yes|no>?no/*" =
        ["~", "door", ":!open<yes|no>?no", "*"] := by
      decide
    obtain ⟨accepts, reads, _, slashes⟩ :=
      compile_follows_grammar .standard "~/door/:!open<yes|no>?no/*"
    rw [tokens] at accepts reads
    have fit : ∀ index token, ["~", "door", ":!open<yes|no>?no", "*"][index]? = some token →
        Fits .standard 4 index token := by
      intro index token here
      match index with
      | 0 =>
        cases here
        exact .inl ⟨rfl, rfl⟩
      | 1 =>
        cases here
        exact .inr (.inr ⟨_, door⟩)
      | 2 =>
        cases here
        exact .inr (.inr ⟨_, .value parsed wellFormed⟩)
      | 3 =>
        cases here
        exact .inr (.inl ⟨rfl, rfl⟩)
      | _ + 4 => cases here
    obtain ⟨route, h⟩ := accepts.mpr fit
    obtain ⟨_, relative, wildcard, denotes⟩ := reads route h
    have slashed := slashes "~/door//:!open<yes|no>?no/*/" (.tail (.single
      (.doubled "~/door".toList ":!open<yes|no>?no/*".toList)) (.trailing _))
    rw [h] at slashed
    exact ⟨route, h, relative.mpr rfl, wildcard.mpr rfl, denotes, slashed⟩
  · obtain ⟨_, _, faults, _⟩ := compile_follows_grammar .standard "/door/~/:!open<yes>"
    have tokens : tokensOf "/door/~/:!open<yes>" = ["door", "~", ":!open<yes>"] := by
      decide
    rw [tokens] at faults
    refine (faults _).mpr ⟨1, "~", rfl, .late (by decide), fun earlier before first here => ?_⟩
    obtain rfl : earlier = 0 := by omega
    cases here
    exact .inr (.inr ⟨_, door⟩)

end ScopedRouting.Template
