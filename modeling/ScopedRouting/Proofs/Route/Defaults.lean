import ScopedRouting.Proofs.Converter.Rereading
import ScopedRouting.Proofs.Route.Constraints

/-!
# Paths of defaults

A route whose dynamic segments all have defaults has a path without any values. What is written for
a default is read as the default again. But a default is converted only, and not constrained, so
that the route matches this path exactly if the arguments of each segment admit what is written for
its default.
-/
namespace ScopedRouting

namespace Template

/-- Whether a text is read from a path as it stands, at the start of the path, too. -/
def isPlainText (text : String) : Bool :=
  text ≠ "" && text ≠ "." && !text.toList.contains '/' && !text.toList.contains '%'

/-- Plain literals, dynamic segments with a plain default, and wildcards. -/
def Token.isDefaulted : Token → Bool
  | .literal text => isPlainText text
  | .value clause =>
    match clause.presence with
    | .defaulted text => isPlainText text
    | _ => false
  | .wildcard => true
  | .relative => false

/-- Whether all dynamic segments of a template have a default, and all its texts are plain. -/
def IsDefaulted (template : String) : Prop :=
  ∀ piece ∈ Path.pieces pathSeparator template,
    (Token.parse piece).toOption.any Token.isDefaulted = true

instance (template : String) : Decidable (IsDefaulted template) :=
  inferInstanceAs (Decidable (∀ piece ∈ Path.pieces pathSeparator template,
    (Token.parse piece).toOption.any Token.isDefaulted = true))

def Token.clause? : Token → Option Clause
  | .value clause => some clause
  | .literal _ | .wildcard | .relative => none

/-- The dynamic segments of a template as they are written, in order. -/
def clauses (template : String) : List Clause :=
  (Path.pieces pathSeparator template).filterMap fun piece =>
    (Token.parse piece).toOption.bind Token.clause?

/-- The defaults of a template by name. -/
def defaults (template : String) : Values :=
  .ofList ((clauses template).filterMap fun clause => clause.default?.map (clause.bareName, ·))

theorem isPlainText_iff {text : String} :
    isPlainText text = true ↔ (Path.Stable text ∧ text ≠ "" ∧ text ≠ ".") ∧ '%' ∉ text.toList := by
  have plain : isPlainText text = true ↔
      ((text ≠ "" ∧ text ≠ ".") ∧ '/' ∉ text.toList) ∧ '%' ∉ text.toList := by
    simp [isPlainText]
  rw [plain]
  constructor
  · rintro ⟨⟨⟨nonempty, no_dot⟩, absent⟩, no_percent⟩
    exact ⟨⟨⟨absent, Percent.decodeOrKeep_of_not_mem no_percent⟩, nonempty, no_dot⟩, no_percent⟩
  · rintro ⟨⟨⟨absent, _⟩, nonempty, no_dot⟩, no_percent⟩
    exact ⟨⟨⟨nonempty, no_dot⟩, absent⟩, no_percent⟩

end Template

namespace Converter

/-- The token of a value in a path: a text itself, and what is written for another value. -/
def token (converter : Converter) : Value → String
  | .text words => words
  | value => converter.write value

/-- Whether a value is read again from what is written for it, through its token. -/
structure Settles (converter : Converter) (value : Value) : Prop where
  written : Path.reread (converter.write value) = [converter.token value]
  unmarked : converter.token value ≠ "."
  accepted : converter.accepts (converter.token value) = true
  read : converter.read? (converter.token value) = some value

variable {literal : String} {value : Value}

theorem settles_text (plain : Template.isPlainText literal = true)
    (read : text.read? literal = some value) : text.Settles value := by
  obtain ⟨⟨⟨_, same⟩, nonempty, no_dot⟩, _⟩ := Template.isPlainText_iff.mp plain
  have decoded : value = .text literal := by
    rw [← Option.some.inj read, same]
  subst decoded
  have whole : Path.pieces pathSeparator (Percent.encodeComponent literal) =
      [Percent.encodeComponent literal] :=
    Path.pieces_of_not_mem (Percent.slash_not_mem_encodeComponent literal)
      (Percent.encodeComponent_ne_empty nonempty)
  refine ⟨?_, no_dot, rfl, read⟩
  change Path.reread (Percent.encodeComponent literal) = [literal]
  simp [Path.reread, whole]

/-- The text of a finite number is read as it stands. -/
theorem stable_toText (x : FiniteNumber) :
    Path.Stable (Binary64.toText (.finite x)) ∧ Binary64.toText (.finite x) ≠ "" ∧
      Binary64.toText (.finite x) ≠ "." := by
  have no_slash : '/' ∉ (Binary64.toText (.finite x)).toList :=
    fun member => absurd (Binary64.char_cases_toText x '/' member) (by decide)
  have no_percent : '%' ∉ (Binary64.toText (.finite x)).toList :=
    fun member => absurd (Binary64.char_cases_toText x '%' member) (by decide)
  have number := Binary64.leading?_toText x
  have none : ∀ text ∈ ["", "."], Binary64.leading? text = none := by decide
  refine ⟨⟨no_slash, Percent.decodeOrKeep_of_not_mem no_percent⟩, ?_, ?_⟩
  · intro same
    rw [same, none "" (by decide)] at number
    cases number
  · intro same
    rw [same, none "." (by decide)] at number
    cases number

theorem settles_number (read : number.read? literal = some value)
    (finite : value.isInfinite = false) : number.Settles value := by
  obtain ⟨accepted, again⟩ := takesBackFinite_number literal value read
  obtain ⟨n, leads, rfl⟩ := Option.map_eq_some_iff.mp read
  cases n with
  | nan => exact absurd leads (Binary64.leading?_ne_nan literal)
  | infinite _ => cases finite
  | finite x =>
    obtain ⟨stable, nonempty, no_dot⟩ := stable_toText x
    exact ⟨Path.reread_of_stable stable nonempty, no_dot, accepted.mpr finite, again.mpr finite⟩

theorem settles_boolean {trueWord falseWord : String}
    (plain : Template.isPlainText literal = true)
    (read : (boolean trueWord falseWord).read? literal = some value) :
    (boolean trueWord falseWord).Settles value := by
  obtain ⟨⟨stable, nonempty, no_dot⟩, _⟩ := Template.isPlainText_iff.mp plain
  obtain ⟨accepted, again⟩ := takesBackFinite_boolean trueWord falseWord literal value read
  -- what is written is the word that the truth value was read from
  have same : ∃ b, value = .bool b ∧ (boolean trueWord falseWord).write (.bool b) = literal := by
    simp only [boolean] at read
    split at read
    · rename_i word
      exact ⟨true, (Option.some.inj read).symm, word.symm⟩
    · split at read
      · rename_i word
        exact ⟨false, (Option.some.inj read).symm, word.symm⟩
      · cases read
  obtain ⟨b, rfl, written⟩ := same
  have token : (boolean trueWord falseWord).token (.bool b) = literal := written
  refine ⟨?_, token ▸ no_dot, accepted.mpr rfl, again.mpr rfl⟩
  rw [token, written, Path.reread_of_stable stable nonempty]

end Converter

/-- The token of the default, empty where there is none. -/
def ValueSegment.defaultToken (segment : ValueSegment) : String :=
  segment.default.elim "" segment.converter.token

namespace Segment

/-- The token that stands for a segment in the path of its defaults. -/
def defaultToken : Segment → String
  | .literal text => text
  | .value segment => segment.defaultToken
  | .wildcard | .relative => ""

def value? : Segment → Option ValueSegment
  | .value segment => some segment
  | .literal _ | .wildcard | .relative => none

theorem filterMap_value?_framed (relative wildcard : Bool) (inner : List Segment) :
    (framed relative wildcard inner).filterMap value? = inner.filterMap value? := by
  cases relative <;> cases wildcard <;> simp [framed, List.filterMap_cons, value?]

theorem mem_filterMap_value? {segments : List Segment} {value : ValueSegment} :
    value ∈ segments.filterMap value? ↔ .value value ∈ segments := by
  rw [List.mem_filterMap]
  constructor
  · rintro ⟨segment, member, same⟩
    cases segment with
    | value own =>
      cases same
      exact member
    | literal _ => cases same
    | wildcard => cases same
    | relative => cases same
  · exact fun member => ⟨_, member, rfl⟩

/-- Without a token, the default of a dynamic segment is stored. -/
theorem filterMap_binding?_none (segments : List Segment) :
    segments.filterMap (binding? · none) =
      (segments.filterMap value?).filterMap fun value => value.default.map (value.name, ·) := by
  rw [List.filterMap_filterMap]
  refine List.filterMap_congr fun segment _ => ?_
  cases segment <;> rfl

/-- Plain literals, and dynamic segments with a default that is read again. -/
def HasDefault : Segment → Prop
  | .literal text => Template.isPlainText text = true
  | .value segment => ∃ value ∈ segment.default, segment.converter.Settles value
  | .wildcard => False
  | .relative => False

namespace HasDefault

variable {segment : Segment} (defaulted : segment.HasDefault)
include defaulted

/-- Without values, a segment is resolved to what is read as its token, and nothing is used up. -/
theorem resolve_empty (consume : Bool) :
    ∃ part, segment.resolve .empty consume = (.ok (some part), .empty) ∧
      Path.reread part = [segment.defaultToken] := by
  cases segment with
  | literal text =>
    obtain ⟨⟨stable, nonempty, _⟩, _⟩ := Template.isPlainText_iff.mp defaulted
    exact ⟨text, rfl, Path.reread_of_stable stable nonempty⟩
  | value segment =>
    obtain ⟨value, default, settles⟩ := defaulted
    have token : (Segment.value segment).defaultToken = segment.converter.token value := by
      rw [defaultToken, ValueSegment.defaultToken, default, Option.elim_some]
    refine ⟨segment.converter.write value, ?_, token ▸ settles.written⟩
    rw [Option.mem_def] at default
    have erased : Dictionary.erase .empty segment.name = (.empty : Values) := rfl
    simp [Segment.resolve, ValueSegment.resolve, default, erased]
  | wildcard => exact False.elim defaulted
  | relative => exact False.elim defaulted

theorem unmarked : segment.defaultToken ≠ "." := by
  cases segment with
  | literal text =>
    obtain ⟨⟨_, _, no_dot⟩, _⟩ := Template.isPlainText_iff.mp defaulted
    exact no_dot
  | value segment =>
    obtain ⟨value, default, settles⟩ := defaulted
    rw [defaultToken, ValueSegment.defaultToken, default, Option.elim_some]
    exact settles.unmarked
  | wildcard => exact False.elim defaulted
  | relative => exact False.elim defaulted

/-- The same is stored for the token of the default as for no token at all. -/
theorem binding?_defaultToken :
    segment.binding? (some segment.defaultToken) = segment.binding? none := by
  cases segment with
  | literal text => rfl
  | value segment =>
    obtain ⟨value, default, settles⟩ := defaulted
    have read := settles.read
    rw [Option.mem_def] at default
    simp [binding?, defaultToken, ValueSegment.defaultToken, default, read]
  | wildcard => exact False.elim defaulted
  | relative => exact False.elim defaulted

end HasDefault

/-- Only dynamic segments may refuse the tokens of their defaults. -/
theorem all_accept_defaultToken_iff {segments : List Segment}
    (defaulted : ∀ segment ∈ segments, segment.HasDefault) :
    (segments.all fun segment => segment.accepts (some segment.defaultToken)) = true ↔
      ∀ value ∈ segments.filterMap value?, value.accepts (some value.defaultToken) = true := by
  rw [List.all_eq_true]
  constructor
  · exact fun accepted value member => accepted _ (mem_filterMap_value?.mp member)
  · intro accepted segment member
    cases segment with
    | value own => exact accepted own (mem_filterMap_value?.mpr member)
    | literal text => exact beq_self_eq_true (some text)
    | wildcard => exact False.elim (defaulted _ member)
    | relative => exact False.elim (defaulted _ member)

end Segment

namespace Route

variable {segments : List Segment} {cursor : Cursor}

/-- Without values, segments are resolved to what is read as their tokens. -/
theorem resolveSegments_empty (defaulted : ∀ segment ∈ segments, segment.HasDefault)
    (consume : Bool) :
    ∃ parts, (resolveSegments segments .empty consume).1 = .ok parts ∧
      parts.flatMap Path.reread = segments.map Segment.defaultToken := by
  induction segments with
  | nil => exact ⟨[], rfl, rfl⟩
  | cons segment rest ih =>
    obtain ⟨here, later⟩ := List.forall_mem_cons.mp defaulted
    obtain ⟨part, resolved, written⟩ := here.resolve_empty consume
    obtain ⟨parts, others, read⟩ := ih later
    refine ⟨part :: parts, resolveSegments_cons_eq_ok_iff.mpr ⟨some part, parts, ?_, ?_, rfl⟩, ?_⟩
    · rw [resolved]
    · rw [resolved, others]
    · rw [List.flatMap_cons, written, read, List.map_cons, List.singleton_append]

/-- Whether each segment has a token of its own at its place behind a cursor. -/
def Stands (token : Segment → String) (segments : List Segment) (cursor : Cursor) : Prop :=
  ∀ place, cursor.peek place = (segments.map token)[place]?

variable {token : Segment → String}

theorem Stands.advance {segment : Segment} {rest : List Segment}
    (stands : Stands token (segment :: rest) cursor) : Stands token rest (cursor.advance 1) := by
  intro place
  simp [stands _]

theorem segmentsAccept_of_stands (stands : Stands token segments cursor) :
    segmentsAccept cursor 0 segments =
      segments.all fun segment => segment.accepts (some (token segment)) := by
  induction segments generalizing cursor with
  | nil => rfl
  | cons segment rest ih =>
    have first : cursor.peek 0 = some (token segment) := stands 0
    rw [segmentsAccept, segmentsAccept_succ, ih stands.advance, first, List.all_cons]

theorem bindings_of_stands (stands : Stands token segments cursor) :
    bindings segments cursor =
      segments.filterMap fun segment => segment.binding? (some (token segment)) := by
  induction segments generalizing cursor with
  | nil => rfl
  | cons segment rest ih =>
    have first : cursor.peek 0 = some (token segment) := stands 0
    rw [bindings_cons, ih stands.advance, first, List.filterMap_eq_flatMap_toList,
      List.filterMap_eq_flatMap_toList, List.flatMap_cons]

theorem stands_ofTokens (token : Segment → String) (segments : List Segment) :
    Stands token segments (.ofTokens (segments.map token)) := by
  intro place
  rw [Cursor.peek, Cursor.ofTokens, Nat.zero_add]

/-- A route that is not relative matches one token for each of its segments if each accepts its
own. -/
theorem accepts_ofTokens {route : Route} (absolute : route.relative = false)
    (token : Segment → String) :
    route.accepts (.ofTokens (route.segments.map token)) =
      route.segments.all fun segment => segment.accepts (some (token segment)) := by
  rw [← segmentsAccept_of_stands (stands_ofTokens token route.segments)]
  simp [accepts, absolute, Cursor.ofTokens, Cursor.remaining, Cursor.size]

end Route

/-- The path of the defaults is read as their tokens. -/
theorem Path.parse_join_of_hasDefault {segments : List Segment} {parts : List String}
    (defaulted : ∀ segment ∈ segments, segment.HasDefault)
    (read : parts.flatMap reread = segments.map Segment.defaultToken) :
    parse {} (join parts) = ⟨segments.map Segment.defaultToken, false⟩ := by
  refine (parse_join "." parts).trans ?_
  rw [read]
  cases segments with
  | nil => rfl
  | cons first rest => exact if_neg (defaulted first List.mem_cons_self).unmarked

namespace Template

variable {regexes : RegexReader}

/-- What tokens mean: markers and literals themselves, and a well-formed clause its segment. -/
inductive Token.Means (regexes : RegexReader) : Token → Segment → Prop
  | relative : Means regexes .relative .relative
  | wildcard : Means regexes .wildcard .wildcard
  | literal (text : String) : Means regexes (.literal text) (.literal text)
  | value {clause : Clause} (wellFormed : clause.WellFormed regexes) :
      Means regexes (.value clause) (.value (clause.segment regexes))

/-- A default is read again, unless it is infinite. -/
theorem Clause.WellFormed.hasDefault {clause : Clause} {literal : String}
    (wellFormed : clause.WellFormed regexes) (presence : clause.presence = .defaulted literal)
    (plain : isPlainText literal = true)
    (finite : ∀ value ∈ clause.default?, value.isInfinite = false) :
    (Segment.value (clause.segment regexes)).HasDefault := by
  have accepted := wellFormed.convertible literal presence
  obtain ⟨value, read⟩ := Option.isSome_iff_exists.mp (clause.faithful_converter literal accepted)
  have default : clause.default? = some value := by
    rw [Clause.default?, presence]
    exact read
  refine ⟨value, default, ?_⟩
  change clause.converter.Settles value
  have finite := finite value default
  unfold Clause.converter at read ⊢
  split at read
  · rename_i number
    rw [if_pos number]
    exact Converter.settles_number read finite
  · rename_i no_number
    rw [if_neg no_number]
    split at read
    · rename_i boolean
      rw [if_pos boolean]
      exact Converter.settles_boolean plain read
    · rename_i no_boolean
      rw [if_neg no_boolean]
      exact Converter.settles_text plain read

/-- Whether a default is admitted is up to the arguments alone. -/
theorem Clause.WellFormed.accepts_defaultToken_iff {clause : Clause}
    (wellFormed : clause.WellFormed regexes)
    (defaulted : (Segment.value (clause.segment regexes)).HasDefault) :
    (clause.segment regexes).accepts (some (clause.segment regexes).defaultToken) = true ↔
      clause.args.Admits regexes (clause.segment regexes).defaultToken := by
  obtain ⟨value, default, settles⟩ := defaulted
  have convertible : (clause.segment regexes).converter.accepts
      (clause.segment regexes).defaultToken = true := by
    rw [ValueSegment.defaultToken, default, Option.elim_some]
    exact settles.accepted
  rw [← Args.admits_iff_of_create wellFormed.compiles.create, ValueSegment.accepts, convertible,
    Bool.true_and]
  rfl

namespace Dialect

/-- A token that compiles means the segment that it compiles to. -/
theorem CompilesTo.means {piece : String} {segment : Segment}
    (compiles : (reading regexes).CompilesTo piece segment) :
    ∃ token, Token.parse piece = .ok token ∧ token.Means regexes segment := by
  obtain ⟨template, count, index, compiled⟩ := compiles
  obtain ⟨token, parsed, compiled⟩ := exists_ok_of_bind_ok compiled
  refine ⟨token, parsed, ?_⟩
  cases token with
  | relative =>
    dsimp only at compiled
    split at compiled
    · cases compiled
      exact .relative
    · cases compiled
  | wildcard =>
    dsimp only at compiled
    split at compiled
    · cases compiled
      exact .wildcard
    · cases compiled
  | literal text =>
    cases compiled
    exact .literal text
  | value clause =>
    obtain ⟨segment, built, rfl⟩ := exists_ok_of_map_ok compiled
    obtain ⟨wellFormed, rfl⟩ := Clause.compileValue_eq_ok_iff.mp built
    exact .value wellFormed

/-- The dynamic segments of a route are those of its template. -/
theorem clauses_of_compile {template : String} {route : Route}
    (compiled : (reading regexes).compile template = .ok route) :
    route.segments.filterMap Segment.value? = (clauses template).map (Clause.segment regexes) ∧
      ∀ clause ∈ clauses template, clause.WellFormed regexes := by
  obtain ⟨_, pairs⟩ := (faithful_reading regexes).framed_of_compile compiled
  rw [← Segment.filterMap_value?_framed route.relative route.wildcard]
  unfold clauses
  generalize Segment.framed route.relative route.wildcard route.segments = segments at pairs ⊢
  generalize Path.pieces pathSeparator template = pieces at pairs ⊢
  induction pairs with
  | nil => exact ⟨rfl, by simp⟩
  | @cons piece segment pieces segments first _ ih =>
    obtain ⟨token, parsed, means⟩ := first.means
    obtain ⟨later, others⟩ := ih
    rw [List.filterMap_cons, List.filterMap_cons, parsed]
    cases means with
    | relative => exact ⟨later, others⟩
    | wildcard => exact ⟨later, others⟩
    | literal text => exact ⟨later, others⟩
    | @value clause wellFormed =>
      exact ⟨congrArg (clause.segment regexes :: ·) later,
        List.forall_mem_cons.mpr ⟨wellFormed, others⟩⟩

/-- A template with defaults only compiles to segments with defaults only. -/
theorem hasDefault_of_compile {template : String} (defaulted : IsDefaulted template)
    {route : Route} (compiled : (reading regexes).compile template = .ok route)
    (finite : ∀ clause ∈ clauses template, ∀ value ∈ clause.default?, value.isInfinite = false) :
    route.relative = false ∧ ∀ segment ∈ route.segments, segment.HasDefault := by
  obtain ⟨readable, pairs⟩ := (faithful_reading regexes).framed_of_compile compiled
  have each : ∀ segment ∈ Segment.framed route.relative route.wildcard route.segments,
      segment = .wildcard ∨ segment.HasDefault := by
    refine forall_of_forall₂ pairs fun piece listed segment compiles => ?_
    obtain ⟨token, parsed, means⟩ := compiles.means
    have plain := defaulted piece listed
    rw [parsed] at plain
    change token.isDefaulted = true at plain
    cases means with
    | relative => cases plain
    | wildcard => exact .inl rfl
    | literal text => exact .inr plain
    | @value clause wellFormed =>
      have member : clause ∈ clauses template :=
        List.mem_filterMap.mpr ⟨piece, listed, by rw [parsed]; rfl⟩
      unfold Token.isDefaulted at plain
      dsimp only at plain
      split at plain
      · rename_i literal presence
        exact .inr (wellFormed.hasDefault presence plain (finite clause member))
      · cases plain
  refine ⟨?_, fun segment member => ?_⟩
  · cases relative : route.relative with
    | false => rfl
    | true =>
      rw [relative] at each
      rcases each .relative (by simp [Segment.framed]) with other | none
      · cases other
      · exact False.elim none
  · rcases each segment (Segment.mem_framed member) with rfl | here
    · exact False.elim (readable _ member)
    · exact here

end Dialect

end Template

open Template

/-- What becomes of the defaults of a template. Its route is resolved without any values. The route
matches the path exactly if the arguments of every dynamic segment admit the token of its default,
and then what is read are the defaults. An infinite default is left out here, as the word that is
written for it is no number. -/
theorem defaults_read_back_iff {regexes : RegexReader} {template : String}
    (defaulted : IsDefaulted template) {route : Route}
    (compiled : (Dialect.reading regexes).compile template = .ok route)
    (finite : ∀ clause ∈ clauses template, ∀ value ∈ clause.default?, value.isInfinite = false)
    (consume : Bool) :
    ∃ href after, (route.resolve .empty consume).1 = .ok href ∧
      (route.accepts (.ofPath (.parse {} href)) = true ↔
        ∀ clause ∈ clauses template,
          clause.args.Admits regexes (clause.segment regexes).defaultToken) ∧
      (route.accepts (.ofPath (.parse {} href)) = true →
        route.readValues (.ofPath (.parse {} href)) = (.ok (defaults template), after)) := by
  obtain ⟨absolute, each⟩ := Dialect.hasDefault_of_compile defaulted compiled finite
  obtain ⟨values, wellFormed⟩ := Dialect.clauses_of_compile compiled
  obtain ⟨parts, resolved, read⟩ := Route.resolveSegments_empty each consume
  have readable := (Dialect.faithful_reading regexes).readable_of_compile compiled
  have cursor : Cursor.ofPath (.parse {} (Path.join parts)) =
      .ofTokens (route.segments.map Segment.defaultToken) :=
    congrArg Cursor.ofPath (Path.parse_join_of_hasDefault each read)
  refine ⟨Path.join parts,
    (Cursor.ofPath (.parse {} (Path.join parts))).advance route.segments.length,
    Route.resolve_eq_ok_iff.mpr ⟨parts, resolved, rfl⟩, ?_, fun accepted => ?_⟩
  · rw [cursor, Route.accepts_ofTokens absolute, Segment.all_accept_defaultToken_iff each, values,
      List.forall_mem_map]
    refine forall₂_congr fun clause member => ?_
    have listed : clause.segment regexes ∈ route.segments.filterMap Segment.value? :=
      values ▸ List.mem_map_of_mem member
    exact (wellFormed clause member).accepts_defaultToken_iff
      (each _ (Segment.mem_filterMap_value?.mp listed))
  · rw [Route.readValues_of_accepts readable accepted]
    rw [cursor, Route.valuesAt, Route.bindings_of_stands (Route.stands_ofTokens _ _),
      List.filterMap_congr fun segment member => (each segment member).binding?_defaultToken,
      Segment.filterMap_binding?_none, values, List.filterMap_map]
    rfl

/-- A page within its range and a word of a choice, with more of the path to follow. -/
theorem defaults_read_back_in_list :
    let template := "/list/:+page<1..5>?2.0/:sort<asc|desc>?desc/*"
    let values : Values := .ofList [("page", .number (.ofInt 2)), ("sort", .text "desc")]
    ∃ route after, Dialect.standard.compile template = .ok route ∧
      (route.resolve .empty true).1 = .ok "/list/2/desc/" ∧
      route.accepts (.ofPath (.parse {} "/list/2/desc/")) = true ∧
      route.readValues (.ofPath (.parse {} "/list/2/desc/")) = (.ok values, after) := by
  intro template values
  have facts : (Dialect.standard.compile template).toOption.map (fun route =>
      ((route.resolve .empty true).1, defaults template)) =
      some (.ok "/list/2/desc/", values) := by
    decide +kernel
  have finite : ∀ clause ∈ clauses template, ∀ value ∈ clause.default?,
      value.isInfinite = false := by
    decide +kernel
  have admits : ∀ clause ∈ clauses template,
      (clause.args.validator .standard).all
        (· (clause.segment .standard).defaultToken) = true := by
    decide +kernel
  obtain ⟨route, compiled, facts⟩ := exists_ok_of_toOption_map facts
  obtain ⟨written, same⟩ := Prod.mk.inj facts
  obtain ⟨href, after, resolved, accepts_iff, read⟩ :=
    defaults_read_back_iff (by decide +kernel : IsDefaulted template) compiled finite true
  obtain rfl := Except.ok.inj (written.symm.trans resolved)
  obtain ⟨_, wellFormed⟩ := Dialect.clauses_of_compile compiled
  have accepted := accepts_iff.mpr fun clause member =>
    (Args.admits_iff_of_create (wellFormed clause member).compiles.create _).mp
      (admits clause member)
  rw [← same]
  exact ⟨route, after, compiled, written, accepted, read accepted⟩

/-- A default out of its own range is written, and refused. -/
theorem default_refused_by_range :
    ∃ route, Dialect.standard.compile "/:+page<1..5>?9" = .ok route ∧
      IsDefaulted "/:+page<1..5>?9" ∧
      defaults "/:+page<1..5>?9" = .ofList [("page", .number (.ofInt 9))] ∧
      (route.resolve .empty true).1 = .ok "/9/" ∧
      route.accepts (.ofPath (.parse {} "/9/")) = false := by
  have facts : (Dialect.standard.compile "/:+page<1..5>?9").toOption.map (fun route =>
      ((route.resolve .empty true).1, route.accepts (.ofPath (.parse {} "/9/")))) =
      some (.ok "/9/", false) := by
    decide +kernel
  obtain ⟨route, compiled, facts⟩ := exists_ok_of_toOption_map facts
  obtain ⟨resolved, refused⟩ := Prod.mk.inj facts
  exact ⟨route, compiled, by decide, by decide +kernel, resolved, refused⟩

end ScopedRouting
