import ScopedRouting.Proofs.Route.Constraints

/-!
# Segments for truth values

The arguments of a dynamic segment for truth values are read twice. They give it the words that it
writes and reads, which are the usual ones unless the arguments are a choice, and they constrain the
tokens that it accepts, whatever its words are. So a word that is written may not be accepted, and
two equal words are read as true.
-/
namespace ScopedRouting

namespace Template.Args

/-- The word for a truth value. -/
def truthWord (args : Args) (b : Bool) : String :=
  if b then args.truthWords.1 else args.truthWords.2

/-- Whether arguments admit the words that they give. A range is about numbers and admits no usual
word, and an expression may admit one. -/
def AdmitsWord (regexes : RegexReader) : Args → String → Prop
  | .absent, _ => True
  | .range _ _, _ => False
  | .regex pattern, word => ∃ holds, regexes pattern = some holds ∧ holds word = true
  | .choice _, _ => True

variable {args : Args} (pair : ∀ words, args = .choice words → words.length = 2) (b : Bool)
include pair

/-- Only a choice can give an empty word. -/
theorem truthWord_eq_empty_iff :
    args.truthWord b = "" ↔ ∃ other, args = .choice (if b then ["", other] else [other, ""]) := by
  cases args with
  | absent => cases b <;> simp [truthWord, truthWords]
  | range min max => cases b <;> simp [truthWord, truthWords]
  | regex pattern => cases b <;> simp [truthWord, truthWords]
  | choice words =>
    obtain ⟨trueWord, falseWord, rfl⟩ := List.length_eq_two.mp (pair words rfl)
    cases b <;> simp [truthWord, truthWords]

theorem admits_truthWord_iff (regexes : RegexReader) :
    args.Admits regexes (args.truthWord b) ↔ args.AdmitsWord regexes (args.truthWord b) := by
  cases args with
  | absent => exact Iff.rfl
  | range min max =>
    -- a range is only given the usual words, and neither begins with a number
    have no_number : Binary64.leading? ((Args.range min max).truthWord b) = none := by
      cases b with
      | true => exact (by decide : Binary64.leading? "true" = none)
      | false => exact (by decide : Binary64.leading? "false" = none)
    simp [Admits, AdmitsWord, Validator.range, no_number]
  | regex pattern => exact Iff.rfl
  | choice words =>
    obtain ⟨trueWord, falseWord, rfl⟩ := List.length_eq_two.mp (pair words rfl)
    cases b <;> simp [Admits, AdmitsWord, truthWord, truthWords]

end Template.Args

/-- A segment for truth values writes and reads the words that its arguments give, and has them for
a constraint, too. -/
theorem Template.Dialect.boolean_of_compileValue {regexes : RegexReader} {clause : Clause}
    {segment : ValueSegment} (boolean : clause.name.toList.head? = some '!')
    (h : (reading regexes).compileValue clause = .ok segment) :
    segment.converter = .boolean (clause.args.truthWord true) (clause.args.truthWord false) ∧
      (ValidatorFactory.reading regexes).create clause.args = .ok segment.validator ∧
      ∀ words, clause.args = .choice words → words.length = 2 := by
  obtain ⟨wellFormed, rfl⟩ := Clause.compileValue_eq_ok_iff.mp h
  refine ⟨?_, wellFormed.compiles.create, wellFormed.paired boolean⟩
  change clause.converter = _
  rw [Clause.converter, boolean, if_neg (by decide), if_pos rfl]
  rfl

namespace Converter

variable (words : Bool → String) (b : Bool)

theorem write_boolean :
    (boolean (words true) (words false)).write (.bool b) = words b := by
  cases b <;> rfl

theorem accepts_boolean :
    (boolean (words true) (words false)).accepts (words b) = true := by
  cases b <;> simp [boolean]

/-- Two words that are equal are both read as true. -/
theorem read?_boolean :
    (boolean (words true) (words false)).read? (words b) =
      some (.bool (b || words true = words false)) := by
  cases b with
  | true => simp [boolean]
  | false =>
    by_cases same : words true = words false
    · simp [boolean, same]
    · simp [boolean, same, Ne.symm same]

end Converter

namespace ValueSegment

variable {segment : ValueSegment}

theorem resolve_of_given {values : Values} {value : Value}
    (given : values.get? segment.name = some value) (consume : Bool) :
    (segment.resolve values consume).1 = .ok (some (segment.converter.write value)) := by
  simp [resolve, given]

theorem read_of_token {cursor : Cursor} {token : String} {value : Value}
    (next : cursor.peek 0 = some token) (read : segment.converter.read? token = some value)
    (values : Values) :
    segment.read cursor values = (.ok (values.insert segment.name value), cursor.advance 1) := by
  simp [ValueSegment.read, next, read]

end ValueSegment

open Template

/-- What becomes of a truth value in a segment for truth values. The segment of the clause stands in
the route where its token does in the template. It is resolved to the word that the arguments give,
which is empty only if a choice says so. The segment accepts this word exactly if the arguments
admit it: always without arguments or with a choice, never with a range, and with an expression if
it matches the word, by any reader of expressions. It reads the word as the truth value, except that
of two equal words both are read as true. -/
theorem truth_values_read_back_iff {regexes : RegexReader} {template : String} {route : Route}
    (compiled : (Dialect.reading regexes).compile template = .ok route)
    {place : Nat} {piece : String}
    (listed : (Path.pieces pathSeparator template)[place]? = some piece) {clause : Clause}
    (parsed : Token.parse piece = .ok (.value clause))
    (boolean : clause.name.toList.head? = some '!') (b : Bool) :
    ∃ offset segment, place = offset + (if route.relative then 1 else 0) ∧
      route.segments[offset]? = some (.value segment) ∧
      (∀ values consume, values.get? segment.name = some (.bool b) →
        (segment.resolve values consume).1 = .ok (some (clause.args.truthWord b))) ∧
      (clause.args.truthWord b = "" ↔
        ∃ other, clause.args = .choice (if b then ["", other] else [other, ""])) ∧
      (segment.accepts (some (clause.args.truthWord b)) = true ↔
        clause.args.AdmitsWord regexes (clause.args.truthWord b)) ∧
      ∀ cursor values, cursor.peek 0 = some (clause.args.truthWord b) →
        ∃ read, segment.read cursor values =
            (.ok (values.insert segment.name (.bool read)), cursor.advance 1) ∧
          (read = b ↔
            (b = false → clause.args.truthWord true ≠ clause.args.truthWord false)) := by
  obtain ⟨_, pairs⟩ := (Dialect.faithful_reading regexes).framed_of_compile compiled
  obtain ⟨_, framed, compiles⟩ := getElem?_of_forall₂ pairs listed
  obtain ⟨segment, built, rfl⟩ := compiles.value parsed
  obtain ⟨offset, same, here⟩ := Segment.getElem?_of_framed framed
  obtain ⟨converter, validated, pair⟩ := Dialect.boolean_of_compileValue boolean built
  refine ⟨offset, segment, same, here, fun values consume given => ?_,
    Args.truthWord_eq_empty_iff pair b, ?_, fun cursor values next => ?_⟩
  · rw [ValueSegment.resolve_of_given given, converter, Converter.write_boolean]
  · rw [← Args.admits_truthWord_iff pair _ regexes, ← Args.admits_iff_of_create validated,
      ValueSegment.accepts, converter, Converter.accepts_boolean, Bool.true_and]
  · have read := Converter.read?_boolean clause.args.truthWord b
    rw [← converter] at read
    refine ⟨_, ValueSegment.read_of_token next read values, ?_⟩
    cases b with
    | true => simp
    | false => simp

/-- A truth value written and read with the words of a choice. -/
theorem truth_values_read_back_with_choice :
    let values : Values := .ofList [("on", .bool false)]
    let cursor : Cursor := .ofTokens ["no"]
    ∃ route segment after, Dialect.standard.compile "/lamp/:!on<yes|no>" = .ok route ∧
      route.segments[1]? = some (.value segment) ∧
      (segment.resolve values false).1 = .ok (some "no") ∧ segment.accepts (some "no") = true ∧
      segment.read cursor .empty = (.ok values, after) := by
  intro values cursor
  have facts : (Dialect.standard.compile "/lamp/:!on<yes|no>").toOption.map (fun route =>
      (route.relative, route.segments.map Segment.name?)) = some (false, [none, some "on"]) := by
    decide
  obtain ⟨route, compiled, facts⟩ := exists_ok_of_toOption_map facts
  obtain ⟨relative, names⟩ := Prod.mk.inj facts
  have listed : (Path.pieces pathSeparator "/lamp/:!on<yes|no>")[1]? = some ":!on<yes|no>" := by
    decide
  have parsed : Token.parse ":!on<yes|no>" =
      .ok (.value ⟨"!on", .choice ["yes", "no"], .required⟩) := by
    decide
  obtain ⟨offset, segment, place, here, resolved, _, accepted, read⟩ :=
    truth_values_read_back_iff compiled listed parsed (by decide) false
  obtain rfl : offset = 1 := by simpa [relative] using place.symm
  have named : segment.name = "on" := by
    have at_place := congrArg (fun names => names[1]?) names
    simpa [here, Segment.name?] using at_place
  obtain ⟨again, reads, same⟩ := read cursor .empty rfl
  obtain rfl : again = false := same.mpr fun _ => by decide
  rw [named] at resolved reads
  exact ⟨route, segment, _, compiled, here, resolved values false (by decide),
    accepted.mpr trivial, reads⟩

/-- A range of numbers admits neither of the usual words. -/
theorem truth_value_refused_by_range :
    let values : Values := .ofList [("on", .bool true)]
    ∃ route segment, Dialect.standard.compile "/:!on<0..1>" = .ok route ∧
      route.segments = [segment] ∧ (segment.resolve values false).1 = .ok (some "true") ∧
      segment.accepts (some "true") = false := by
  intro values
  have facts : (Dialect.standard.compile "/:!on<0..1>").toOption.map (fun route =>
      route.segments.map fun segment =>
        ((segment.resolve values false).1, segment.accepts (some "true"))) =
      some [(.ok (some "true"), false)] := by
    decide
  obtain ⟨route, compiled, facts⟩ := exists_ok_of_toOption_map facts
  obtain ⟨segment, segments, outcome⟩ := List.map_eq_singleton_iff.mp facts
  obtain ⟨resolved, refused⟩ := Prod.mk.inj outcome
  exact ⟨route, segment, compiled, segments, resolved, refused⟩

end ScopedRouting
