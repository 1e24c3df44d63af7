import Mathlib.Data.List.Forall2
import ScopedRouting.Proofs.Route.Reading
import ScopedRouting.Template.Compile

/-!
# Segments of compiled templates

A template compiles to readable segments with at most a relative marker before and a wildcard
behind them. Both markers are lifted off, so that no marker is left among the segments of a route.
-/
namespace ScopedRouting

theorem exists_ok_of_bind_ok {ε α β : Type} {first : Except ε α} {next : α → Except ε β} {b : β}
    (h : (first >>= next) = .ok b) : ∃ a, first = .ok a ∧ next a = .ok b := by
  cases first with
  | error e => cases h
  | ok a => exact ⟨a, rfl, h⟩

theorem exists_ok_of_map_ok {ε α β : Type} {first : Except ε α} {f : α → β} {b : β}
    (h : first.map f = .ok b) : ∃ a, first = .ok a ∧ f a = b := by
  cases first with
  | error e => cases h
  | ok a => exact ⟨a, rfl, Except.ok.inj h⟩

theorem eq_error_of_map_eq_error {ε α β : Type} {first : Except ε α} {f : α → β} {e : ε}
    (h : first.map f = .error e) : first = .error e := by
  cases first with
  | error own =>
    cases h
    rfl
  | ok a => cases h

theorem exists_ok_of_toOption_map {ε α β : Type} {result : Except ε α} {f : α → β} {b : β}
    (h : result.toOption.map f = some b) : ∃ a, result = .ok a ∧ f a = b := by
  cases result with
  | error e => cases h
  | ok a => exact ⟨a, rfl, Option.some.inj h⟩

/-- What the members of a list have from those of another at the same places. -/
theorem forall_of_forall₂ {α β : Type} {related : α → β → Prop} {holds : β → Prop} {as : List α}
    {bs : List β} (pairs : List.Forall₂ related as bs)
    (each : ∀ a ∈ as, ∀ b, related a b → holds b) : ∀ b ∈ bs, holds b := by
  induction pairs with
  | nil => exact List.forall_mem_nil _
  | cons first _ ih =>
    obtain ⟨here, rest⟩ := List.forall_mem_cons.mp each
    exact List.forall_mem_cons.mpr ⟨here _ first, ih rest⟩

theorem getElem?_of_forall₂ {α β : Type} {related : α → β → Prop} {as : List α} {bs : List β}
    (pairs : List.Forall₂ related as bs) {place : Nat} {a : α} (here : as[place]? = some a) :
    ∃ b, bs[place]? = some b ∧ related a b := by
  induction pairs generalizing place with
  | nil => cases here
  | cons first _ ih =>
    cases place with
    | zero =>
      cases here
      exact ⟨_, rfl, first⟩
    | succ place => exact ih here

/-- Segments with the markers that stand around them. -/
def Segment.framed (relative wildcard : Bool) (inner : List Segment) : List Segment :=
  (if relative then [.relative] else []) ++ (inner ++ if wildcard then [.wildcard] else [])

theorem Segment.unmarked_of_framed {relative wildcard : Bool} {inner : List Segment}
    (no_relative : .relative ∉ framed relative wildcard inner)
    (no_wildcard : .wildcard ∉ framed relative wildcard inner) :
    relative = false ∧ wildcard = false := by
  constructor
  · cases relative with
    | false => rfl
    | true => simp [framed] at no_relative
  · cases wildcard with
    | false => rfl
    | true => simp [framed] at no_wildcard

theorem Segment.mem_framed {relative wildcard : Bool} {inner : List Segment} {segment : Segment}
    (member : segment ∈ inner) : segment ∈ framed relative wildcard inner := by
  simp [framed, member]

namespace Route

theorem liftWildcard_append (segments : List Segment) :
    liftWildcard (segments ++ [.wildcard]) = (segments, true) := by
  rw [liftWildcard, List.getLast?_concat, List.dropLast_concat]

theorem liftWildcard_of_not_mem {segments : List Segment} (absent : .wildcard ∉ segments) :
    liftWildcard segments = (segments, false) := by
  unfold liftWildcard
  split
  · rename_i last
    exact False.elim (absent (List.mem_of_getLast? last))
  · rfl

theorem liftRelative_of_readable {segments : List Segment}
    (readable : ∀ segment ∈ segments, segment.Readable) :
    liftRelative segments = (segments, false) := by
  unfold liftRelative
  split
  · exact False.elim (readable _ List.mem_cons_self)
  · rfl

theorem ofSegments_framed (template : String) (relative wildcard : Bool) {inner : List Segment}
    (readable : ∀ segment ∈ inner, segment.Readable) :
    ofSegments template (Segment.framed relative wildcard inner) =
      ⟨template, inner, relative, wildcard⟩ := by
  have absent : ∀ ahead : List Segment, .wildcard ∉ ahead → .wildcard ∉ ahead ++ inner := by
    intro ahead notAhead member
    rcases List.mem_append.mp member with member | member
    · exact notAhead member
    · exact readable _ member
  have lifted : liftWildcard (Segment.framed relative wildcard inner) =
      ((if relative then [.relative] else []) ++ inner, wildcard) := by
    cases wildcard with
    | true => rw [Segment.framed, if_pos rfl, ← List.append_assoc, liftWildcard_append]
    | false =>
      rw [Segment.framed, if_neg Bool.false_ne_true, List.append_nil]
      exact liftWildcard_of_not_mem (absent _ (by cases relative <;> simp))
  rw [ofSegments, lifted]
  cases relative with
  | true => rfl
  | false =>
    dsimp only
    rw [if_neg Bool.false_ne_true, List.nil_append, liftRelative_of_readable readable]

end Route

namespace Template.Dialect

/-- Whether all converters of a dialect are faithful. -/
structure Faithful (dialect : Dialect) : Prop where
  created : ∀ indicator name args converter,
    dialect.converters.create indicator name args = .ok (some converter) → converter.Faithful
  fallback : dialect.converters.fallback.Faithful

theorem exists_boolean_of_booleanOf {name : String} {args : Args} {converter : Converter}
    (h : Converter.booleanOf name args = .ok converter) :
    ∃ trueWord falseWord, converter = .boolean trueWord falseWord := by
  unfold Converter.booleanOf at h
  split at h
  · cases h
    exact ⟨_, _, rfl⟩
  · cases h
  · cases h
    exact ⟨_, _, rfl⟩

/-- The standard converters are for texts, for numbers and for two words. -/
theorem create_standard_cases {indicator : Char} {name : String} {args : Args}
    {converter : Converter}
    (h : ConverterFactory.standard.create indicator name args = .ok (some converter)) :
    converter = .text ∨ converter = .number ∨
      ∃ trueWord falseWord, converter = .boolean trueWord falseWord := by
  unfold ConverterFactory.standard at h
  dsimp only at h
  split at h
  · cases h
    exact .inl rfl
  · cases h
    exact .inr (.inl rfl)
  · obtain ⟨boolean, created, same⟩ := exists_ok_of_map_ok h
    cases same
    exact .inr (.inr (exists_boolean_of_booleanOf created))
  · cases h

theorem faithful_reading (regexes : RegexReader) : (reading regexes).Faithful := by
  refine ⟨?_, Converter.faithful_text⟩
  intro indicator name args converter h
  rcases create_standard_cases h with rfl | rfl | ⟨trueWord, falseWord, rfl⟩
  · exact Converter.faithful_text
  · exact Converter.faithful_number
  · exact Converter.faithful_boolean trueWord falseWord

theorem faithful_standard : Dialect.standard.Faithful :=
  faithful_reading .standard

variable {dialect : Dialect}

theorem faithful_of_converterOf (faithful : dialect.Faithful) {clause : Clause} {name : String}
    {converter : Converter} (h : dialect.converterOf clause = .ok (name, converter)) :
    converter.Faithful := by
  unfold converterOf at h
  split at h
  · cases h
  · obtain ⟨found, created, picked⟩ := exists_ok_of_bind_ok h
    cases found with
    | none =>
      dsimp only at picked
      split at picked
      · cases picked
      · cases picked
        exact faithful.fallback
    | some converter =>
      dsimp only at picked
      split at picked
      · cases picked
      · cases picked
        exact faithful.created _ _ _ _ created

theorem faithful_of_compileValue (faithful : dialect.Faithful) {clause : Clause}
    {segment : ValueSegment} (h : dialect.compileValue clause = .ok segment) :
    segment.converter.Faithful := by
  obtain ⟨⟨name, converter⟩, picked, h⟩ := exists_ok_of_bind_ok h
  obtain ⟨validator, _, h⟩ := exists_ok_of_bind_ok h
  obtain ⟨default, _, h⟩ := exists_ok_of_bind_ok h
  cases h
  exact faithful_of_converterOf faithful picked

/-- A token compiles to a readable segment, or to a marker at the end where it belongs. -/
theorem compileToken_cases (faithful : dialect.Faithful) {template text : String}
    {count index : Nat} {segment : Segment}
    (h : dialect.compileToken template count index text = .ok segment) :
    segment.Readable ∨ (segment = .relative ∧ index = 0) ∨
      (segment = .wildcard ∧ index + 1 = count) := by
  obtain ⟨token, _, h⟩ := exists_ok_of_bind_ok h
  cases token with
  | relative =>
    dsimp only at h
    split at h
    · rename_i first
      exact .inr (.inl ⟨(Except.ok.inj h).symm, first⟩)
    · cases h
  | wildcard =>
    dsimp only at h
    split at h
    · rename_i last
      exact .inr (.inr ⟨(Except.ok.inj h).symm, last⟩)
    · cases h
  | value clause =>
    obtain ⟨value, compiled, same⟩ := exists_ok_of_map_ok h
    cases same
    exact .inl (faithful_of_compileValue faithful compiled)
  | literal text =>
    cases h
    exact .inl trivial

theorem compileTokens_cons {template text : String} {count index : Nat} {rest : List String}
    {segments : List Segment}
    (h : dialect.compileTokens template count index (text :: rest) = .ok segments) :
    ∃ segment others, dialect.compileToken template count index text = .ok segment ∧
      dialect.compileTokens template count (index + 1) rest = .ok others ∧
      segments = segment :: others := by
  obtain ⟨segment, first, h⟩ := exists_ok_of_bind_ok h
  obtain ⟨others, later, h⟩ := exists_ok_of_bind_ok h
  cases h
  exact ⟨segment, others, first, later, rfl⟩

/-- Whether a token compiles to a segment at some place of a template. -/
def CompilesTo (dialect : Dialect) (text : String) (segment : Segment) : Prop :=
  ∃ template count index, dialect.compileToken template count index text = .ok segment

theorem forall₂_of_compileTokens {template : String} {count index : Nat} {tokens : List String}
    {segments : List Segment}
    (h : dialect.compileTokens template count index tokens = .ok segments) :
    List.Forall₂ dialect.CompilesTo tokens segments := by
  induction tokens generalizing index segments with
  | nil =>
    cases h
    exact .nil
  | cons text rest ih =>
    obtain ⟨segment, others, first, later, rfl⟩ := compileTokens_cons h
    exact .cons ⟨template, count, index, first⟩ (ih later)

theorem CompilesTo.value {text : String} {segment : Segment} {clause : Clause}
    (compiles : dialect.CompilesTo text segment) (parsed : Token.parse text = .ok (.value clause)) :
    ∃ value, dialect.compileValue clause = .ok value ∧ segment = .value value := by
  obtain ⟨template, count, index, h⟩ := compiles
  obtain ⟨token, again, h⟩ := exists_ok_of_bind_ok h
  cases parsed.symm.trans again
  obtain ⟨value, compiled, same⟩ := exists_ok_of_map_ok h
  exact ⟨value, compiled, same.symm⟩

theorem CompilesTo.literal {text words : String} {segment : Segment}
    (compiles : dialect.CompilesTo text segment)
    (parsed : Token.parse text = .ok (.literal words)) : segment = .literal words := by
  obtain ⟨template, count, index, h⟩ := compiles
  obtain ⟨token, again, h⟩ := exists_ok_of_bind_ok h
  cases parsed.symm.trans again
  cases h
  rfl

/-- Behind the first token only a wildcard at the end is no readable segment. -/
theorem compileTokens_behind_first (faithful : dialect.Faithful) {template : String}
    {count index : Nat} (behind : 0 < index) {tokens : List String} {segments : List Segment}
    (all : index + tokens.length = count)
    (h : dialect.compileTokens template count index tokens = .ok segments) :
    ∃ wildcard inner, (∀ segment ∈ inner, segment.Readable) ∧
      segments = Segment.framed false wildcard inner := by
  induction tokens generalizing index segments with
  | nil =>
    cases h
    exact ⟨false, [], by simp, rfl⟩
  | cons text rest ih =>
    obtain ⟨segment, others, first, later, rfl⟩ := compileTokens_cons h
    rw [List.length_cons] at all
    obtain ⟨wildcard, inner, readable, rfl⟩ := ih (Nat.succ_pos index) (by omega) later
    rcases compileToken_cases faithful first with plain | ⟨_, start⟩ | ⟨rfl, last⟩
    · exact ⟨wildcard, segment :: inner, List.forall_mem_cons.mpr ⟨plain, readable⟩, rfl⟩
    · omega
    · have noMore : rest = [] := List.eq_nil_of_length_eq_zero (by omega)
      subst noMore
      have nothing : ([] : List Segment) = Segment.framed false wildcard inner :=
        Except.ok.inj later
      rw [← nothing]
      exact ⟨true, [], by simp, rfl⟩

theorem compileTokens_framed (faithful : dialect.Faithful) {template : String}
    {tokens : List String} {segments : List Segment}
    (h : dialect.compileTokens template tokens.length 0 tokens = .ok segments) :
    ∃ relative wildcard inner, (∀ segment ∈ inner, segment.Readable) ∧
      segments = Segment.framed relative wildcard inner := by
  cases tokens with
  | nil =>
    cases h
    exact ⟨false, false, [], by simp, rfl⟩
  | cons text rest =>
    obtain ⟨segment, others, first, later, rfl⟩ := compileTokens_cons h
    obtain ⟨wildcard, inner, readable, rfl⟩ :=
      compileTokens_behind_first faithful Nat.zero_lt_one
        (by rw [List.length_cons]; omega) later
    rcases compileToken_cases faithful first with plain | ⟨rfl, _⟩ | ⟨rfl, last⟩
    · exact ⟨false, wildcard, segment :: inner,
        List.forall_mem_cons.mpr ⟨plain, readable⟩, rfl⟩
    · exact ⟨true, wildcard, inner, readable, rfl⟩
    · have noMore : rest = [] := List.eq_nil_of_length_eq_zero (by
        rw [List.length_cons] at last
        omega)
      subst noMore
      have nothing : ([] : List Segment) = Segment.framed false wildcard inner :=
        Except.ok.inj later
      rw [← nothing]
      exact ⟨false, true, [], by simp, rfl⟩

/-- The tokens of a template compile one by one to the segments of its route with the markers
around them. -/
theorem Faithful.framed_of_compile (faithful : dialect.Faithful) {template : String}
    {route : Route} (h : dialect.compile template = .ok route) :
    (∀ segment ∈ route.segments, segment.Readable) ∧
      List.Forall₂ dialect.CompilesTo (Path.pieces pathSeparator template)
        (Segment.framed route.relative route.wildcard route.segments) := by
  obtain ⟨segments, compiled, rfl⟩ := exists_ok_of_map_ok h
  have pairs := forall₂_of_compileTokens compiled
  obtain ⟨relative, wildcard, inner, readable, rfl⟩ := compileTokens_framed faithful compiled
  rw [Route.ofSegments_framed template relative wildcard readable]
  exact ⟨readable, pairs⟩

theorem Faithful.readable_of_compile (faithful : dialect.Faithful) {template : String}
    {route : Route} (h : dialect.compile template = .ok route) :
    ∀ segment ∈ route.segments, segment.Readable :=
  (faithful.framed_of_compile h).1

end Template.Dialect

end ScopedRouting
