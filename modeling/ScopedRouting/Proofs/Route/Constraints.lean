import ScopedRouting.Proofs.Route.Hrefs

/-!
# Constraints on tokens

The arguments of a dynamic segment constrain the token at its place. What is stored for a segment
that takes texts is this token, decoded once more. So the stored text keeps to the constraint if
decoding leaves the token alone, and may break it if it does not.
-/
namespace ScopedRouting

namespace Template

/-- Whether a text keeps to what the arguments of a segment say. -/
def Args.Admits (regexes : RegexReader) : Args → String → Prop
  | .absent, _ => True
  | .range min max, text => Validator.range min max text = true
  | .regex pattern, text => ∃ holds, regexes pattern = some holds ∧ holds text = true
  | .choice words, text => text ∈ words

/-- The validator of arguments lets through what they admit. -/
theorem Args.admits_iff_of_create {regexes : RegexReader} {args : Args}
    {validator : Option Validator}
    (h : (ValidatorFactory.reading regexes).create args = .ok validator) (text : String) :
    validator.all (· text) = true ↔ args.Admits regexes text := by
  cases args with
  | absent =>
    cases h
    simp [Admits]
  | range min max =>
    cases h
    simp [Admits]
  | regex pattern =>
    simp only [ValidatorFactory.reading] at h
    split at h
    · rename_i holds parsed
      cases h
      simp [Admits, parsed]
    · cases h
  | choice words =>
    cases h
    simp [Admits, Validator.choice]

end Template

namespace Segment

theorem name_of_binding? {segment : Segment} {token : Option String} {binding : String × Value}
    (stored : segment.binding? token = some binding) : segment.name? = some binding.1 := by
  cases segment with
  | value segment =>
    cases token with
    | some token =>
      obtain ⟨_, _, rfl⟩ := Option.map_eq_some_iff.mp stored
      rfl
    | none =>
      obtain ⟨_, _, rfl⟩ := Option.map_eq_some_iff.mp stored
      rfl
  | literal _ => cases stored
  | wildcard => cases stored
  | relative => cases stored

/-- A segment between the markers stands where its token does in the template, not counting the
marker in front. -/
theorem getElem?_of_framed {relative wildcard : Bool} {inner : List Segment} {place : Nat}
    {segment : ValueSegment}
    (here : (framed relative wildcard inner)[place]? = some (.value segment)) :
    ∃ offset, place = offset + (if relative then 1 else 0) ∧
      inner[offset]? = some (.value segment) := by
  have unmarked : ∀ {offset : Nat},
      (inner ++ if wildcard then [.wildcard] else [])[offset]? = some (.value segment) →
        inner[offset]? = some (.value segment) := by
    intro offset here
    rw [List.getElem?_append] at here
    split at here
    · exact here
    · cases wildcard with
      | false => simp at here
      | true =>
        have last := List.mem_of_getElem? here
        simp at last
  cases relative with
  | false => exact ⟨place, rfl, unmarked here⟩
  | true =>
    cases place with
    | zero => cases here
    | succ offset => exact ⟨offset, rfl, unmarked here⟩

end Segment

namespace Dictionary

variable {α : Type}

/-- A pair decides if none behind it has its key. -/
theorem get?_ofList_last {earlier later : List (String × α)} {pair : String × α}
    (absent : ∀ other ∈ later, other.1 ≠ pair.1) :
    (ofList (earlier ++ pair :: later)).get? pair.1 = some pair.2 := by
  rw [get?_ofList, List.lookup_eq_some_iff]
  refine ⟨later.reverse, earlier.reverse, by simp, ?_⟩
  intro other member
  simpa using (absent other (List.mem_reverse.mp member)).symm

end Dictionary

namespace Route

variable {segments : List Segment} {cursor : Cursor}

theorem accepts_of_segmentsAccept {start offset : Nat} {segment : Segment}
    (accepted : segmentsAccept cursor start segments = true)
    (here : segments[offset]? = some segment) :
    segment.accepts (cursor.peek (start + offset)) = true := by
  induction segments generalizing start offset with
  | nil => cases here
  | cons first rest ih =>
    obtain ⟨own, others⟩ := Bool.and_eq_true_iff.mp accepted
    cases offset with
    | zero =>
      cases here
      exact own
    | succ offset =>
      rw [← Nat.add_assoc, Nat.add_right_comm]
      exact ih others here

theorem bindings_append (before behind : List Segment) (cursor : Cursor) :
    bindings (before ++ behind) cursor =
      bindings before cursor ++ bindings behind (cursor.advance before.length) := by
  induction before generalizing cursor with
  | nil => simp [bindings]
  | cons segment rest ih => simp [ih, Nat.add_comm 1]

/-- What is stored is stored under the name of a segment. -/
theorem name_of_mem_bindings {binding : String × Value}
    (member : binding ∈ bindings segments cursor) :
    ∃ segment ∈ segments, segment.name? = some binding.1 := by
  obtain ⟨⟨segment, place⟩, placed, stored⟩ := List.mem_filterMap.mp member
  exact ⟨segment, (List.mem_zipIdx' placed).2 ▸ List.getElem_mem _,
    Segment.name_of_binding? stored⟩

/-- The last segment of a name decides what is read under this name. -/
theorem get?_valuesAt {route : Route} {offset : Nat} {segment : Segment}
    (here : route.segments[offset]? = some segment) {binding : String × Value}
    (stored : segment.binding? (cursor.peek offset) = some binding)
    (last : ∀ later lower, offset < later → route.segments[later]? = some lower →
      lower.name? ≠ some binding.1) :
    (route.valuesAt cursor).get? binding.1 = some binding.2 := by
  obtain ⟨inside, here⟩ := List.getElem?_eq_some_iff.mp here
  have split : route.segments =
      route.segments.take offset ++ segment :: route.segments.drop (offset + 1) := by
    rw [← here, ← List.drop_eq_getElem_cons inside, List.take_append_drop]
  have length : (route.segments.take offset).length = offset := by
    rw [List.length_take, Nat.min_eq_left (Nat.le_of_lt inside)]
  have first : (cursor.advance offset).peek 0 = cursor.peek offset := by
    simp
  rw [valuesAt, split, bindings_append, length, bindings_cons, first, stored]
  apply Dictionary.get?_ofList_last
  intro other member same
  obtain ⟨lower, listed, named⟩ := name_of_mem_bindings member
  obtain ⟨index, below⟩ := List.mem_iff_getElem?.mp listed
  rw [List.getElem?_drop] at below
  exact last (offset + 1 + index) lower (by omega) below (by rw [named, same])

end Route

open Template

/-- What the tokens of a constrained segment and the texts stored for them keep to. The segment of a
clause for texts stands in the route where its token does in the template. Whenever the route
accepts a cursor that has a token there, the arguments admit this token, and what is stored for the
segment, and read unless a later segment has the same name, is the token decoded once more. The
arguments admit this text, too, if the token has nothing to decode or if they admit nothing that
has. What an expression admits is up to the reader of expressions, and any will do. -/
theorem tokens_keep_to_constraints {regexes : RegexReader} {template : String} {route : Route}
    (compiled : (Dialect.reading regexes).compile template = .ok route)
    {place : Nat} {piece : String}
    (listed : (Path.pieces pathSeparator template)[place]? = some piece) {clause : Clause}
    (parsed : Token.parse piece = .ok (.value clause))
    (no_number : clause.name.toList.head? ≠ some '+')
    (no_boolean : clause.name.toList.head? ≠ some '!') :
    ∃ offset segment, place = offset + (if route.relative then 1 else 0) ∧
      route.segments[offset]? = some (.value segment) ∧
      ∀ cursor token, route.accepts cursor = true → cursor.peek offset = some token →
        clause.args.Admits regexes token ∧
        (Segment.value segment).binding? (some token) =
          some (segment.name, .text (Percent.decodeOrKeep token)) ∧
        (∃ read after, route.readValues cursor = (.ok read, after) ∧
          ((∀ later lower, offset < later → route.segments[later]? = some lower →
            lower.name? ≠ some segment.name) →
              read.get? segment.name = some (.text (Percent.decodeOrKeep token)))) ∧
        ((Percent.decodeOrKeep token = token ∨
            ∀ text, clause.args.Admits regexes text → Percent.decodeOrKeep text = text) →
          clause.args.Admits regexes (Percent.decodeOrKeep token)) := by
  obtain ⟨readable, pairs⟩ := (Dialect.faithful_reading regexes).framed_of_compile compiled
  obtain ⟨_, framed, compiles⟩ := getElem?_of_forall₂ pairs listed
  obtain ⟨segment, built, rfl⟩ := compiles.value parsed
  obtain ⟨offset, same, here⟩ := Segment.getElem?_of_framed framed
  obtain ⟨converter, validated, _, _⟩ := Dialect.text_of_compileValue no_number no_boolean built
  refine ⟨offset, segment, same, here, fun cursor token accepted next => ?_⟩
  have own := Route.accepts_of_segmentsAccept (Route.segmentsAccept_of_accepts accepted) here
  rw [Nat.zero_add, next] at own
  have admitted : clause.args.Admits regexes token :=
    (Args.admits_iff_of_create validated token).mp (Bool.and_eq_true_iff.mp own).2
  have stored : (Segment.value segment).binding? (some token) =
      some (segment.name, .text (Percent.decodeOrKeep token)) := by
    simp [Segment.binding?, converter, Converter.text]
  refine ⟨admitted, stored, ?_, ?_⟩
  · refine ⟨_, _, Route.readValues_of_accepts readable accepted, fun last => ?_⟩
    exact Route.get?_valuesAt here (next ▸ stored) last
  · rintro (plain | never)
    · rwa [plain]
    · rwa [never token admitted]

/-- A word of a choice is read as it stands. -/
theorem tokens_keep_to_choice :
    ∃ route read after, Dialect.standard.compile "/list/:order<asc|desc>" = .ok route ∧
      route.readValues (.ofPath (.parse {} "/list/desc")) = (.ok read, after) ∧
      read.get? "order" = some (.text "desc") ∧
      (Args.choice ["asc", "desc"]).Admits .standard "desc" := by
  have facts : (Dialect.standard.compile "/list/:order<asc|desc>").toOption.map (fun route =>
      (route.relative, route.segments.map Segment.name?,
        route.accepts (.ofPath (.parse {} "/list/desc")))) =
      some (false, [none, some "order"], true) := by
    decide +kernel
  have next : (Cursor.ofPath (.parse {} "/list/desc")).peek 1 = some "desc" := by decide +kernel
  have plain : Percent.decodeOrKeep "desc" = "desc" := by decide +kernel
  have listed : (Path.pieces pathSeparator "/list/:order<asc|desc>")[1]? =
      some ":order<asc|desc>" := by
    decide
  have parsed : Token.parse ":order<asc|desc>" =
      .ok (.value ⟨"order", .choice ["asc", "desc"], .required⟩) := by
    decide
  cases compiled : Dialect.standard.compile "/list/:order<asc|desc>" with
  | error error =>
    rw [compiled] at facts
    cases facts
  | ok route =>
    rw [compiled] at facts
    simp only [Except.toOption, Option.map_some, Option.some.injEq, Prod.mk.injEq] at facts
    obtain ⟨relative, names, accepted⟩ := facts
    obtain ⟨offset, segment, place, here, keep⟩ := tokens_keep_to_constraints compiled listed parsed
      (by decide) (by decide)
    obtain rfl : offset = 1 := by simpa [relative] using place.symm
    have two : route.segments.length = 2 := by simpa using congrArg List.length names
    have named : some segment.name = some "order" := by
      have at_place := congrArg (fun names => names[1]?) names
      simpa [here, Segment.name?] using at_place
    obtain ⟨_, _, ⟨read, after, reads, last⟩, admitted⟩ := keep _ "desc" accepted next
    have stored := last fun later lower behind below => by
      have inside := (List.getElem?_eq_some_iff.mp below).1
      omega
    rw [plain, Option.some.inj named] at stored
    rw [plain] at admitted
    exact ⟨route, read, after, rfl, reads, stored, admitted (.inl rfl)⟩

/-- An expression that keeps dots out lets an encoded dot through, which is stored as a dot. -/
theorem stored_text_breaks_constraint :
    ∃ route after regex, Dialect.standard.compile "/files/:name<^[^.]*$>" = .ok route ∧
      Regex.parse? "^[^.]*$" = some regex ∧
      route.accepts (.ofPath (.parse {} "/files/%252E")) = true ∧
      (Cursor.ofPath (.parse {} "/files/%252E")).peek 1 = some "%2E" ∧
      regex.isMatch "%2E" = true ∧
      route.readValues (.ofPath (.parse {} "/files/%252E")) =
        (.ok (.ofList [("name", .text ".")]), after) ∧
      regex.isMatch "." = false := by
  have facts : (Dialect.standard.compile "/files/:name<^[^.]*$>").toOption.map (fun route =>
      let cursor := Cursor.ofPath (.parse {} "/files/%252E")
      (route.accepts cursor, cursor.peek 1, (route.readValues cursor).1)) =
      some (true, some "%2E", .ok (.ofList [("name", .text ".")])) := by
    decide +kernel
  have matches_only_token : (Regex.parse? "^[^.]*$").map
      (fun regex => (regex.isMatch "%2E", regex.isMatch ".")) = some (true, false) := by
    decide +kernel
  obtain ⟨regex, expression, results⟩ := Option.map_eq_some_iff.mp matches_only_token
  obtain ⟨token, dot⟩ := Prod.mk.inj results
  cases compiled : Dialect.standard.compile "/files/:name<^[^.]*$>" with
  | error error =>
    rw [compiled] at facts
    cases facts
  | ok route =>
    rw [compiled] at facts
    simp only [Except.toOption, Option.map_some, Option.some.injEq, Prod.mk.injEq] at facts
    obtain ⟨accepted, next, read⟩ := facts
    exact ⟨route, _, regex, rfl, expression, accepted, next, token, Prod.ext read rfl, dot⟩

end ScopedRouting
