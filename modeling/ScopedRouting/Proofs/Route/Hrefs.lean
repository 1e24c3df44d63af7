import ScopedRouting.Proofs.Dictionary.Pairs
import ScopedRouting.Proofs.Route.Tokens
import ScopedRouting.Proofs.Template.WellFormed

/-!
# Paths of texts and back

The path of a map of texts holds each of them encoded once. Reading the path decodes it once, which
gives the texts back whatever they are, and then the text converter decodes the token once more. So
a text comes back as it was if it has nothing to decode, and changes if it has.
-/
namespace ScopedRouting

namespace Template

/-- Literals without a percent sign, and required dynamic segments for texts without arguments. -/
def Token.isPlain : Token → Bool
  | .literal text => !text.toList.contains '%'
  | .value clause =>
    clause.args = .absent && clause.presence = .required &&
      clause.name.toList.head? ≠ some '+' && clause.name.toList.head? ≠ some '!'
  | .relative => false
  | .wildcard => false

/-- Whether a template begins with a literal other than the relative indicator and has literals
without a percent sign and required segments for texts only. -/
structure IsPlain (template : String) : Prop where
  first : ∃ text rest, Path.pieces pathSeparator template = text :: rest ∧
    Token.parse text = .ok (.literal text) ∧ text ≠ "."
  each : ∀ piece ∈ Path.pieces pathSeparator template,
    (Token.parse piece).toOption.any Token.isPlain = true

end Template

namespace Segment

/-- Literals that are read as they stand, and required segments for texts. -/
def IsPlain : Segment → Prop
  | .literal text => Path.Stable text ∧ text ≠ ""
  | .value segment => segment.converter = .text ∧ segment.validator = none ∧
      segment.default = none ∧ segment.optional = false
  | .wildcard => False
  | .relative => False

/-- The token that stands for a segment if its name has this text. -/
def token (texts : String → String) : Segment → String
  | .literal text => text
  | .value segment => texts segment.name
  | .wildcard | .relative => ""

namespace IsPlain

variable {segment : Segment} (plain : segment.IsPlain)
include plain

theorem takesTexts : segment.TakesTexts := by
  cases segment with
  | literal _ => exact plain
  | value segment =>
    obtain ⟨converter, validator, default, _⟩ := plain
    exact ⟨converter, validator, default⟩
  | wildcard => exact plain
  | relative => exact plain

theorem readable : segment.Readable :=
  plain.takesTexts.readable

theorem token?_some (texts : String → String) :
    (segment.token? fun name => some (texts name)) = some (segment.token texts) := by
  cases segment with
  | literal _ => rfl
  | value _ => rfl
  | wildcard => exact False.elim plain
  | relative => exact False.elim plain

theorem accepts_token (texts : String → String) :
    segment.accepts (some (segment.token texts)) = true := by
  cases segment with
  | literal _ => simp [Segment.accepts, token]
  | value segment =>
    obtain ⟨converter, validator, _⟩ := plain
    simp [Segment.accepts, token, ValueSegment.accepts, converter, validator, Converter.text]
  | wildcard => exact False.elim plain
  | relative => exact False.elim plain

end IsPlain

end Segment

/-- The names of dynamic segments in order. -/
def Route.names (route : Route) : List String :=
  route.segments.filterMap Segment.name?

namespace Template

theorem Token.parse_literal {piece text : String} (h : Token.parse piece = .ok (.literal text)) :
    text = piece := by
  unfold Token.parse at h
  split at h
  · cases h
  · cases h
  · obtain ⟨clause, _, same⟩ := exists_ok_of_map_ok h
    cases same
  · cases h
    rfl

namespace Dialect

variable {regexes : RegexReader}

theorem isPlain_of_compileValue {clause : Clause} (plain : (Token.value clause).isPlain = true)
    {segment : ValueSegment} (h : (reading regexes).compileValue clause = .ok segment) :
    (Segment.value segment).IsPlain := by
  simp only [Token.isPlain, Bool.and_eq_true, decide_eq_true_eq] at plain
  obtain ⟨⟨⟨args, presence⟩, no_number⟩, no_boolean⟩ := plain
  obtain ⟨converter, validated, defaulted, optional⟩ :=
    text_of_compileValue no_number no_boolean h
  rw [args] at validated
  rw [presence] at defaulted optional
  exact ⟨converter, (Except.ok.inj validated).symm, (Except.ok.inj defaulted).symm, optional⟩

/-- A literal without a percent sign is read as it stands. -/
theorem stable_of_literal {template piece text : String}
    (listed : piece ∈ Path.pieces pathSeparator template)
    (parsed : Token.parse piece = .ok (.literal text)) (no_percent : '%' ∉ text.toList) :
    Path.Stable text ∧ text ≠ "" := by
  have same := Token.parse_literal parsed
  subst same
  obtain ⟨absent, nonempty⟩ := Path.mem_pieces listed
  exact ⟨⟨absent, Percent.decodeOrKeep_of_not_mem no_percent⟩, nonempty⟩

theorem isPlain_of_compilesTo {template piece : String} {segment : Segment}
    (listed : piece ∈ Path.pieces pathSeparator template)
    (plain : (Token.parse piece).toOption.any Token.isPlain = true)
    (compiles : (reading regexes).CompilesTo piece segment) : segment.IsPlain := by
  cases parsed : Token.parse piece with
  | error _ =>
    rw [parsed] at plain
    cases plain
  | ok token =>
    rw [parsed] at plain
    change token.isPlain = true at plain
    cases token with
    | relative => cases plain
    | wildcard => cases plain
    | value clause =>
      obtain ⟨value, compiled, rfl⟩ := compiles.value parsed
      exact isPlain_of_compileValue plain compiled
    | literal text =>
      rw [compiles.literal parsed]
      exact stable_of_literal listed parsed (by simpa [Token.isPlain] using plain)

/-- A plain template compiles to plain segments behind a literal, without markers. -/
theorem plain_of_compile {template : String} (plain : IsPlain template) {route : Route}
    (h : (reading regexes).compile template = .ok route) :
    route.relative = false ∧ route.wildcard = false ∧
      (∀ segment ∈ route.segments, segment.IsPlain) ∧
      ∃ text rest, route.segments = .literal text :: rest ∧ text ≠ "." := by
  obtain ⟨_, pairs⟩ := (faithful_reading regexes).framed_of_compile h
  have each := forall_of_forall₂ pairs fun piece listed segment =>
    isPlain_of_compilesTo listed (plain.each piece listed)
  obtain ⟨relative, wildcard⟩ := Segment.unmarked_of_framed (each .relative) (each .wildcard)
  refine ⟨relative, wildcard, fun segment member => each segment (Segment.mem_framed member), ?_⟩
  obtain ⟨text, rest, pieces, parsed, other⟩ := plain.first
  have unframed : Segment.framed route.relative route.wildcard route.segments =
      route.segments := by
    simp [Segment.framed, relative, wildcard]
  rw [pieces, unframed] at pairs
  obtain ⟨segment, others, first, _, segments⟩ := List.forall₂_cons_left_iff.mp pairs
  rw [first.literal parsed] at segments
  exact ⟨text, others, segments, other⟩

end Dialect

end Template

/-- The text under a name, if there is one. -/
def Values.text? (values : Values) (name : String) : Option String :=
  (values.get? name).bind Value.text?

/-- Whether values give these names a text that is not empty, and no other names anything. -/
structure Values.GivesTexts (names : List String) (values : Values) : Prop where
  given : ∀ name ∈ names, ∃ text ∈ Values.text? values name, text ≠ ""
  only : ∀ entry ∈ values.entries, entry.1 ∈ names

/-- The text under a name, empty if there is none. -/
def Values.textAt (values : Values) (name : String) : String :=
  (Values.text? values name).getD ""

theorem Values.get?_of_text? {values : Values} {name text : String}
    (h : Values.text? values name = some text) :
    Dictionary.get? values name = some (.text text) := by
  obtain ⟨value, here, same⟩ := Option.bind_eq_some_iff.mp h
  cases value with
  | text words =>
    cases same
    exact here
  | bool _ => cases same
  | number _ => cases same

/-- What a value is when its text is decoded once more. -/
def Value.decoded : Value → Value
  | .text words => .text (Percent.decodeOrKeep words)
  | .bool value => .bool value
  | .number value => .number value

theorem Values.GivesTexts.get? {names : List String} {values : Values}
    (gives : values.GivesTexts names) {name : String} (member : name ∈ names) :
    Dictionary.get? values name = some (.text (values.textAt name)) ∧ values.textAt name ≠ "" := by
  obtain ⟨text, here, nonempty⟩ := gives.given name member
  have same : values.textAt name = text := by
    rw [Values.textAt, here]
    rfl
  rw [same]
  exact ⟨Values.get?_of_text? here, nonempty⟩

theorem Values.GivesTexts.get?_of_not_mem {names : List String} {values : Values}
    (gives : values.GivesTexts names) {name : String} (absent : name ∉ names) :
    Dictionary.get? values name = none := by
  cases here : Dictionary.get? values name with
  | none => rfl
  | some value =>
    have entry := (Dictionary.mem_entries_iff values name value).mpr here
    exact False.elim (absent (gives.only _ entry))

namespace Dictionary

variable {α : Type}

/-- A map that is made of keys and a value for some of them. -/
theorem get?_ofList_filterMap (keys : List String) (value : String → Option α) (key : String) :
    (ofList (keys.filterMap fun name => (value name).map fun a => (name, a))).get? key =
      if key ∈ keys then value key else none := by
  have listed : key ∈ keys ↔ key ∈ keys.reverse := List.mem_reverse.symm
  simp only [get?_ofList, ← List.filterMap_reverse, listed]
  induction keys.reverse with
  | nil => simp
  | cons first rest ih =>
    by_cases same : key = first
    · subst same
      cases given : value key <;> simp [given, ih]
    · have other : (key == first) = false := beq_eq_false_iff_ne.mpr same
      cases given : value first <;> simp [given, ih, List.lookup_cons, same, other]

/-- A map that is made of keys and a value for each of them. -/
theorem get?_ofList_map (keys : List String) (value : String → α) (key : String) :
    (ofList (keys.map fun name => (name, value name))).get? key =
      if key ∈ keys then some (value key) else none := by
  have pairs := get?_ofList_filterMap keys (fun name => some (value name)) key
  simp only [Option.map_some] at pairs
  rwa [List.filterMap_eq_map'] at pairs

/-- Every pair of a list gives its key a value. -/
theorem get?_ofList_ne_none {pairs : List (String × α)} {pair : String × α}
    (member : pair ∈ pairs) : (ofList pairs).get? pair.1 ≠ none := by
  rw [get?_ofList, ne_eq, List.lookup_eq_none_iff]
  intro absent
  simpa using absent pair (List.mem_reverse.mpr member)

end Dictionary

namespace Route

variable {texts : String → String} {segments : List Segment}

theorem filterMap_token?_of_plain (plain : ∀ segment ∈ segments, segment.IsPlain)
    (texts : String → String) :
    segments.filterMap (Segment.token? fun name => some (texts name)) =
      segments.map (Segment.token texts) := by
  rw [List.filterMap_congr fun segment member => (plain segment member).token?_some texts,
    List.filterMap_eq_map']

/-- Plain segments are resolved to literals and encoded texts. -/
theorem resolveSegments_of_plain {values : Values}
    (plain : ∀ segment ∈ segments, segment.IsPlain)
    (distinct : (segments.filterMap Segment.name?).Nodup)
    (given : ∀ name ∈ segments.filterMap Segment.name?,
      values.get? name = some (.text (texts name))) (consume : Bool) :
    (resolveSegments segments values consume).1 =
      .ok (segments.map (Segment.token fun name => Percent.encodeComponent (texts name))) := by
  have takes : ∀ segment ∈ segments, segment.TakesTexts := fun segment member =>
    (plain segment member).takesTexts
  refine (resolveSegments_eq_ok_iff (fun name => some (texts name)) takes distinct given).mpr
    ⟨fun segment member => ?_, filterMap_token?_of_plain plain _⟩
  rw [(plain segment member).token?_some]
  exact (plain segment member).accepts_token texts

theorem resolve_of_resolveSegments {route : Route} {values : Values} {consume : Bool}
    {parts : List String}
    (written : (resolveSegments route.segments values consume).1 = .ok parts) :
    (route.resolve values consume).1 = .ok (Path.join parts) :=
  resolve_eq_ok_iff.mpr ⟨parts, written, rfl⟩

/-- Whether the tokens behind a cursor are those of segments. -/
def Meets (texts : String → String) (segments : List Segment) (cursor : Cursor) : Prop :=
  ∀ offset, cursor.peek offset = (segments.map (Segment.token texts))[offset]?

theorem Meets.aligned {cursor : Cursor} (meets : Meets texts segments cursor)
    (plain : ∀ segment ∈ segments, segment.IsPlain) :
    Aligned (fun name => some (texts name)) segments cursor := by
  intro offset
  rw [meets, List.getElem?_map]
  cases here : segments[offset]? with
  | none => rfl
  | some segment => exact ((plain segment (List.mem_of_getElem? here)).token?_some texts).symm

theorem segmentsAccept_of_meets (plain : ∀ segment ∈ segments, segment.IsPlain) {cursor : Cursor}
    (meets : Meets texts segments cursor) : segmentsAccept cursor 0 segments = true := by
  rw [segmentsAccept_of_aligned (meets.aligned plain), List.all_eq_true]
  intro segment member
  rw [(plain segment member).token?_some]
  exact (plain segment member).accepts_token texts

theorem bindings_of_meets (plain : ∀ segment ∈ segments, segment.IsPlain) {cursor : Cursor}
    (meets : Meets texts segments cursor) :
    bindings segments cursor = (segments.filterMap Segment.name?).map fun name =>
      (name, .text (Percent.decodeOrKeep (texts name))) := by
  rw [bindings_of_aligned (fun segment member => (plain segment member).takesTexts)
    (meets.aligned plain)]
  simp only [Option.map_some, List.filterMap_eq_map']

end Route

namespace Path

/-- What is read from literals and encoded texts are the literals and the texts. -/
theorem parse_join_of_plain {texts : String → String} {text : String} {rest : List Segment}
    (plain : ∀ segment ∈ Segment.literal text :: rest, segment.IsPlain)
    (nonempty : ∀ name ∈ (Segment.literal text :: rest).filterMap Segment.name?, texts name ≠ "")
    (absolute : text ≠ ".") :
    parse {} (join ((Segment.literal text :: rest).map
      (Segment.token fun name => Percent.encodeComponent (texts name)))) =
        ⟨(Segment.literal text :: rest).map (Segment.token texts), false⟩ := by
  rw [← Route.filterMap_token?_of_plain plain, ← Route.filterMap_token?_of_plain plain]
  refine parse_join_of_takesTexts (fun name => some (texts name))
    (fun segment member => (plain segment member).takesTexts) ?_ ?_
  · exact fun name member same => nonempty name member (Option.some.inj same)
  · exact fun same => absolute (Option.some.inj same)

end Path

open Template

/-- The path of a map of texts is accepted by the same route and read to its end. What is read are
the texts decoded once more, which is the map itself exactly if no text changes by that. -/
theorem href_reads_back_iff {regexes : RegexReader} {template : String} (plain : IsPlain template)
    {route : Route} (compiled : (Dialect.reading regexes).compile template = .ok route)
    (distinct : route.names.Nodup)
    {values : Values} (gives : values.GivesTexts route.names) (consume : Bool) :
    ∃ href read after, (route.resolve values consume).1 = .ok href ∧
      route.accepts (.ofPath (.parse {} href)) = true ∧
      route.readValues (.ofPath (.parse {} href)) = (.ok read, after) ∧
      after.isExhausted = true ∧
      (∀ name, read.get? name = (values.get? name).map Value.decoded) ∧
      (read = values ↔ ∀ name text, values.get? name = some (.text text) →
        Percent.decodeOrKeep text = text) := by
  obtain ⟨absolute, whole, each, text, rest, segments, other⟩ :=
    Dialect.plain_of_compile plain compiled
  have given : ∀ name ∈ route.segments.filterMap Segment.name?,
      values.get? name = some (.text (values.textAt name)) := fun name member =>
    (gives.get? member).1
  have written := Route.resolveSegments_of_plain each distinct given consume
  generalize parts_eq : route.segments.map (Segment.token fun name =>
    Percent.encodeComponent (values.textAt name)) = parts at written
  have resolved := Route.resolve_of_resolveSegments written
  have parsed : Path.parse {} (Path.join parts) =
      ⟨route.segments.map (Segment.token values.textAt), false⟩ := by
    rw [← parts_eq, segments]
    rw [segments] at each
    refine Path.parse_join_of_plain each ?_ other
    intro name member
    rw [← segments] at member
    exact (gives.get? member).2
  have meets :
      Route.Meets values.textAt route.segments (.ofPath (.parse {} (Path.join parts))) := by
    intro offset
    simp [parsed, Cursor.ofPath, Cursor.ofTokens, Cursor.peek]
  have accepted : route.accepts (.ofPath (.parse {} (Path.join parts))) = true := by
    have length : (Cursor.ofPath (.parse {} (Path.join parts))).remaining =
        route.segments.length := by
      simp [parsed, Cursor.ofPath, Cursor.ofTokens, Cursor.remaining, Cursor.size]
    simp [Route.accepts, absolute, length, Route.segmentsAccept_of_meets each meets]
  have read := Route.readValues_of_accepts (fun segment member => (each segment member).readable)
    accepted
  have exhausted := Route.isExhausted_advance_of_accepts accepted whole
  have again : ∀ name, (route.valuesAt (.ofPath (.parse {} (Path.join parts)))).get? name =
      (values.get? name).map Value.decoded := by
    intro name
    rw [Route.valuesAt, Route.bindings_of_meets each meets,
      Dictionary.get?_ofList_map (route.segments.filterMap Segment.name?)
        fun name => Value.text (Percent.decodeOrKeep (values.textAt name))]
    split
    · rename_i named
      rw [(gives.get? named).1]
      rfl
    · rename_i unnamed
      rw [gives.get?_of_not_mem unnamed]
      rfl
  refine ⟨_, _, _, resolved, accepted, read, exhausted, again, ?_⟩
  constructor
  · intro same name text here
    have once := again name
    rw [same, here] at once
    exact (Value.text.inj (Option.some.inj once)).symm
  · intro stable
    apply Dictionary.ext_get?
    intro name
    rw [again]
    by_cases named : name ∈ route.names
    · have here := (gives.get? named).1
      rw [here, Option.map_some, Value.decoded, stable name _ here]
    · rw [gives.get?_of_not_mem named]
      rfl

theorem href_reads_back_with_signs :
    let values : Values := .ofList [("item", .text "100% a/b ü"), ("view", .text "%zz")]
    ∃ route href after, Dialect.standard.compile "/items/:item/all/:$view" = .ok route ∧
      (route.resolve values true).1 = .ok href ∧
      route.accepts (.ofPath (.parse {} href)) = true ∧
      route.readValues (.ofPath (.parse {} href)) = (.ok values, after) := by
  intro values
  have plain : IsPlain "/items/:item/all/:$view" :=
    ⟨⟨"items", [":item", "all", ":$view"], by decide⟩, by decide +kernel⟩
  have names : (Dialect.standard.compile "/items/:item/all/:$view").toOption.map Route.names =
      some ["item", "view"] := by
    decide
  have gives : values.GivesTexts ["item", "view"] := ⟨by decide +kernel, by decide +kernel⟩
  have stable : ∀ entry ∈ values.entries, ∀ text ∈ entry.2.text?,
      Percent.decodeOrKeep text = text := by
    decide +kernel
  cases compiled : Dialect.standard.compile "/items/:item/all/:$view" with
  | error error =>
    rw [compiled] at names
    cases names
  | ok route =>
    rw [compiled] at names
    rw [← Option.some.inj names] at gives
    have distinct : route.names.Nodup := by
      rw [Option.some.inj names]
      decide
    obtain ⟨href, read, after, resolved, accepted, reads, _, _, same⟩ :=
      href_reads_back_iff plain compiled distinct gives true
    have unchanged : read = values := same.mpr fun name text here =>
      stable _ ((Dictionary.mem_entries_iff values name (.text text)).mpr here) text rfl
    rw [unchanged] at reads
    exact ⟨route, href, after, rfl, resolved, accepted, reads⟩

/-- A text that looks encoded is decoded to another one. -/
theorem href_reads_back_decoded :
    let values : Values := .ofList [("item", .text "%41")]
    ∃ route after, Dialect.standard.compile "/items/:item" = .ok route ∧
      IsPlain "/items/:item" ∧ route.names = ["item"] ∧ values.GivesTexts ["item"] ∧
      (route.resolve values false).1 = .ok "/items/%2541/" ∧
      route.accepts (.ofPath (.parse {} "/items/%2541/")) = true ∧
      route.readValues (.ofPath (.parse {} "/items/%2541/")) =
        (.ok (.ofList [("item", .text "A")]), after) ∧
      Dictionary.ofList [("item", .text "A")] ≠ values := by
  intro values
  have plain : IsPlain "/items/:item" :=
    ⟨⟨"items", [":item"], by decide +kernel⟩, by decide +kernel⟩
  have gives : values.GivesTexts ["item"] := ⟨by decide, by decide⟩
  have facts : (Dialect.standard.compile "/items/:item").toOption.map (fun route =>
      let cursor := Cursor.ofPath (.parse {} "/items/%2541/")
      (route.names, (route.resolve values false).1, route.accepts cursor,
        (route.readValues cursor).1)) =
      some (["item"], .ok "/items/%2541/", true, .ok (.ofList [("item", .text "A")])) := by
    decide +kernel
  have different : Dictionary.ofList [("item", .text "A")] ≠ values := by
    decide
  cases compiled : Dialect.standard.compile "/items/:item" with
  | error error =>
    rw [compiled] at facts
    cases facts
  | ok route =>
    rw [compiled] at facts
    simp only [Except.toOption, Option.map_some, Option.some.injEq, Prod.mk.injEq] at facts
    obtain ⟨names, resolved, accepted, read⟩ := facts
    exact ⟨route, _, rfl, plain, names, gives, resolved, accepted, Prod.ext read rfl, different⟩

end ScopedRouting
