import ScopedRouting.Proofs.Route.Hrefs

/-!
# Segments that are left out of a path

An optional segment without a value has no token in the path of a map, and the tokens behind it move
up by one place. Reading goes by places. So the path is read back to the map that it was made of
exactly if nothing that has a token stands behind a segment that is left out.
-/
namespace ScopedRouting

namespace Template

/-- Literals without a percent sign, and dynamic segments for texts without arguments or default. -/
def Token.isLoose : Token → Bool
  | .literal text => !text.toList.contains '%' && text ≠ "."
  | .value clause =>
    clause.args = .absent && (clause.presence = .required || clause.presence = .optional) &&
      clause.name.toList.head? ≠ some '+' && clause.name.toList.head? ≠ some '!'
  | .relative => false
  | .wildcard => false

/-- Whether a template only has literals that are read as they stand, other than the relative
indicator, and dynamic segments for texts, each required or optional without a default. -/
def IsLoose (template : String) : Prop :=
  ∀ piece ∈ Path.pieces pathSeparator template,
    (Token.parse piece).toOption.any Token.isLoose = true

instance (template : String) : Decidable (IsLoose template) :=
  inferInstanceAs (Decidable (∀ piece ∈ Path.pieces pathSeparator template,
    (Token.parse piece).toOption.any Token.isLoose = true))

end Template

namespace Segment

/-- Literals that are read as they stand, and dynamic segments for texts without a default. -/
def IsLoose : Segment → Prop
  | .literal text => Path.Stable text ∧ text ≠ "" ∧ text ≠ "."
  | .value segment => segment.converter = .text ∧ segment.validator = none ∧ segment.default = none
  | .wildcard => False
  | .relative => False

/-- Whether values have no token for a segment. -/
def LeftOut (values : Values) (segment : Segment) : Prop :=
  segment.token? values.text? = none

theorem IsLoose.takesTexts {segment : Segment} (loose : segment.IsLoose) : segment.TakesTexts := by
  cases segment with
  | literal _ => exact ⟨loose.1, loose.2.1⟩
  | value _ => exact loose
  | wildcard => exact loose
  | relative => exact loose

theorem IsLoose.token?_ne_dot {segment : Segment} (loose : segment.IsLoose)
    {texts : String → Option String} (others : ∀ name, texts name ≠ some ".") :
    segment.token? texts ≠ some "." := by
  cases segment with
  | literal text => exact fun same => loose.2.2 (Option.some.inj same)
  | value segment => exact others segment.name
  | wildcard => exact False.elim loose
  | relative => exact False.elim loose

end Segment

namespace Template.Dialect

variable {regexes : RegexReader}

theorem isLoose_of_compilesTo {template piece : String} {segment : Segment}
    (listed : piece ∈ Path.pieces pathSeparator template)
    (loose : (Token.parse piece).toOption.any Token.isLoose = true)
    (compiles : (reading regexes).CompilesTo piece segment) : segment.IsLoose := by
  cases parsed : Token.parse piece with
  | error _ =>
    rw [parsed] at loose
    cases loose
  | ok token =>
    rw [parsed] at loose
    change token.isLoose = true at loose
    cases token with
    | relative => cases loose
    | wildcard => cases loose
    | value clause =>
      obtain ⟨value, compiled, rfl⟩ := compiles.value parsed
      simp only [Token.isLoose, Bool.and_eq_true, Bool.or_eq_true, decide_eq_true_eq] at loose
      obtain ⟨⟨⟨args, presence⟩, no_number⟩, no_boolean⟩ := loose
      obtain ⟨converter, validated, defaulted, _⟩ :=
        text_of_compileValue no_number no_boolean compiled
      rw [args] at validated
      refine ⟨converter, (Except.ok.inj validated).symm, ?_⟩
      rcases presence with required | optional
      · rw [required] at defaulted
        exact (Except.ok.inj defaulted).symm
      · rw [optional] at defaulted
        exact (Except.ok.inj defaulted).symm
    | literal text =>
      simp only [Token.isLoose, Bool.and_eq_true, decide_eq_true_eq] at loose
      rw [compiles.literal parsed]
      obtain ⟨stable, nonempty⟩ := stable_of_literal listed parsed (by simpa using loose.1)
      exact ⟨stable, nonempty, loose.2⟩

/-- A loose template compiles to loose segments without markers. -/
theorem loose_of_compile {template : String} (loose : IsLoose template) {route : Route}
    (h : (reading regexes).compile template = .ok route) :
    route.relative = false ∧ route.wildcard = false ∧
      ∀ segment ∈ route.segments, segment.IsLoose := by
  obtain ⟨_, pairs⟩ := (faithful_reading regexes).framed_of_compile h
  have each := forall_of_forall₂ pairs fun piece listed segment =>
    isLoose_of_compilesTo listed (loose piece listed)
  obtain ⟨relative, wildcard⟩ := Segment.unmarked_of_framed (each .relative) (each .wildcard)
  exact ⟨relative, wildcard, fun segment member => each segment (Segment.mem_framed member)⟩

end Template.Dialect

/-- Whether values only give these names something, and each a text that is read as it stands. -/
structure Values.FitsIn (names : List String) (values : Values) : Prop where
  only : ∀ entry ∈ values.entries, entry.1 ∈ names
  texts : ∀ entry ∈ values.entries, ∃ text ∈ entry.2.text?, text ≠ "" ∧ text ≠ "." ∧
    Percent.decodeOrKeep text = text

namespace Values.FitsIn

variable {names : List String} {values : Values}

/-- Letters and digits are read as they stand. -/
theorem of_alphanumeric (only : ∀ entry ∈ values.entries, entry.1 ∈ names)
    (plain : ∀ entry ∈ values.entries, ∃ text ∈ entry.2.text?, text ≠ "" ∧
      text.toList.all Char.isAlphanum = true) : values.FitsIn names := by
  refine ⟨only, fun entry member => ?_⟩
  obtain ⟨text, same, nonempty, alphanumeric⟩ := plain entry member
  have letters := List.all_eq_true.mp alphanumeric
  refine ⟨text, same, nonempty, ?_, Percent.decodeOrKeep_of_not_mem fun percent => ?_⟩
  · rintro rfl
    exact absurd (letters '.' (by decide)) (by decide)
  · exact absurd (letters '%' percent) (by decide)

theorem get? (fits : values.FitsIn names) (name : String) :
    Dictionary.get? values name = (values.text? name).map Value.text := by
  cases given : values.text? name with
  | some text => exact Values.get?_of_text? given
  | none =>
    cases here : Dictionary.get? values name with
    | none => rfl
    | some value =>
      have entry := (Dictionary.mem_entries_iff values name value).mpr here
      obtain ⟨text, is_text, _⟩ := fits.texts _ entry
      rw [Values.text?, here] at given
      cases given.symm.trans is_text

theorem of_text? (fits : values.FitsIn names) {name text : String}
    (given : values.text? name = some text) :
    name ∈ names ∧ text ≠ "" ∧ text ≠ "." ∧ Percent.decodeOrKeep text = text := by
  have entry := (Dictionary.mem_entries_iff values name _).mpr (Values.get?_of_text? given)
  obtain ⟨_, same, rest⟩ := fits.texts _ entry
  cases same
  exact ⟨fits.only _ entry, rest⟩

end Values.FitsIn

/-- Where members without an image are only followed by members without one, the images stand at
the places of the members. -/
theorem getElem?_filterMap_of_pairwise {α β : Type} {f : α → Option β} {list : List α}
    (aligned : list.Pairwise fun a b => f a = none → f b = none) (place : Nat) :
    (list.filterMap f)[place]? = list[place]?.bind f := by
  induction aligned generalizing place with
  | nil => simp
  | @cons a rest later _ ih =>
    cases image : f a with
    | some b =>
      rw [List.filterMap_cons_some image]
      cases place with
      | zero => simp [image]
      | succ place => simpa using ih place
    | none =>
      have nothing : rest.filterMap f = [] :=
        List.filterMap_eq_nil_iff.mpr fun b member => later b member image
      rw [nothing] at ih
      rw [List.filterMap_cons_none image, nothing]
      cases place with
      | zero => simp [image]
      | succ place => simpa using ih place

namespace Route

variable {segments : List Segment} {texts : String → Option String} {cursor : Cursor}

/-- If nothing is stored for a name without a text, tokens only stand before all segments that have
none. -/
theorem pairwise_of_bindings (takes : ∀ segment ∈ segments, segment.TakesTexts)
    (tokens : ∀ place, cursor.peek place = (segments.filterMap (Segment.token? texts))[place]?)
    (only : ∀ binding ∈ bindings segments cursor, texts binding.1 ≠ none) :
    segments.Pairwise fun earlier later =>
      earlier.token? texts = none → later.token? texts = none := by
  induction segments generalizing cursor with
  | nil => exact .nil
  | cons segment rest ih =>
    obtain ⟨here, rest_takes⟩ := List.forall_mem_cons.mp takes
    rw [bindings_cons] at only
    obtain ⟨first, rest_only⟩ := List.forall_mem_append.mp only
    cases image : segment.token? texts with
    | some token =>
      rw [List.filterMap_cons_some image] at tokens
      refine List.pairwise_cons.mpr ⟨?_, ih rest_takes (fun place => ?_) rest_only⟩
      · rw [image]
        exact nofun
      · simp [tokens _]
    | none =>
      rw [List.filterMap_cons_none image] at tokens
      -- A token for a segment behind would be taken for this one.
      have nothing : rest.filterMap (Segment.token? texts) = [] := by
        cases left : rest.filterMap (Segment.token? texts) with
        | nil => rfl
        | cons token more =>
          have next : cursor.peek 0 = some token := by rw [tokens, left]; rfl
          rw [next] at first
          cases segment with
          | literal _ => cases image
          | value segment =>
            have stored := first (segment.name, .text (Percent.decodeOrKeep token))
            simp only [Segment.binding?, here.1, Converter.text, Option.map_some,
              Option.toList_some, List.mem_singleton, forall_const] at stored
            exact absurd image stored
          | wildcard => exact False.elim here
          | relative => exact False.elim here
      rw [nothing] at tokens
      refine List.pairwise_cons.mpr ⟨?_, ih rest_takes (fun place => ?_) rest_only⟩
      · exact fun later member _ => List.filterMap_eq_nil_iff.mp nothing later member
      · simp [tokens _, nothing]

end Route

open Template

/-- The path of a map, whenever there is one, is accepted by the same route and read back to the
same map exactly if no segment that is left out stands before one that has a token. -/
theorem href_stays_aligned_iff {regexes : RegexReader} {template : String}
    (loose : IsLoose template) {route : Route}
    (compiled : (Dialect.reading regexes).compile template = .ok route)
    (distinct : route.names.Nodup)
    {values : Values} (fits : values.FitsIn route.names) {consume : Bool} {href : String}
    (resolved : (route.resolve values consume).1 = .ok href) :
    (route.accepts (.ofPath (.parse {} href)) = true ∧
      ∃ after, route.readValues (.ofPath (.parse {} href)) = (.ok values, after)) ↔
        route.segments.Pairwise fun earlier later =>
          earlier.LeftOut values → later.LeftOut values := by
  obtain ⟨absolute, whole, each⟩ := Dialect.loose_of_compile loose compiled
  have takes : ∀ segment ∈ route.segments, segment.TakesTexts := fun segment member =>
    (each segment member).takesTexts
  obtain ⟨parts, written, rfl⟩ := Route.resolve_eq_ok_iff.mp resolved
  obtain ⟨accepts, rfl⟩ := (Route.resolveSegments_eq_ok_iff values.text? takes distinct
    fun name _ => fits.get? name).mp written
  have unmarked : (route.segments.filterMap (Segment.token? values.text?)).head? ≠ some "." := by
    intro first
    obtain ⟨segment, member, same⟩ := List.mem_filterMap.mp (List.mem_of_head? first)
    exact (each segment member).token?_ne_dot (fun name given =>
      (fits.of_text? given).2.2.1 rfl) same
  have parsed := Path.parse_join_of_takesTexts values.text? takes
    (fun name _ given => (fits.of_text? given).2.1 rfl) unmarked
  generalize cursor_eq : Cursor.ofPath (.parse {} (Path.join _)) = cursor
  have peeks : ∀ place, cursor.peek place =
      (route.segments.filterMap (Segment.token? values.text?))[place]? := by
    intro place
    rw [← cursor_eq, parsed]
    simp [Cursor.ofPath, Cursor.ofTokens, Cursor.peek]
  constructor
  · rintro ⟨accepted, after, read⟩
    rw [Route.readValues_of_accepts (fun segment member => (takes segment member).readable)
      accepted] at read
    have same : route.valuesAt cursor = values := Except.ok.inj (Prod.mk.inj read).1
    refine Route.pairwise_of_bindings takes peeks fun binding member => ?_
    have stored : (route.valuesAt cursor).get? binding.1 ≠ none :=
      Dictionary.get?_ofList_ne_none member
    rw [same, fits.get?] at stored
    simpa using stored
  · intro pairwise
    have aligned : Route.Aligned values.text? route.segments cursor := fun place =>
      (peeks place).trans (getElem?_filterMap_of_pairwise pairwise place)
    have accepted : route.accepts cursor = true := by
      have fits_in : cursor.remaining ≤ route.segments.length := by
        rw [← cursor_eq, parsed]
        simpa [Cursor.ofPath, Cursor.ofTokens, Cursor.remaining, Cursor.size] using
          List.length_filterMap_le _ _
      have covered : Route.segmentsAccept cursor 0 route.segments = true :=
        (Route.segmentsAccept_of_aligned aligned).trans (List.all_eq_true.mpr accepts)
      simp [Route.accepts, absolute, whole, covered, Nat.not_lt.mpr fits_in]
    refine ⟨accepted, cursor.advance route.segments.length, ?_⟩
    rw [Route.readValues_of_accepts (fun segment member => (takes segment member).readable)
      accepted]
    refine Prod.ext (congrArg Except.ok (Dictionary.ext_get? fun name => ?_)) rfl
    have stored := Dictionary.get?_ofList_filterMap (route.segments.filterMap Segment.name?)
      (fun name => (values.text? name).map fun text => Value.text (Percent.decodeOrKeep text)) name
    simp only [Option.map_map, Function.comp_def] at stored
    rw [Route.valuesAt, Route.bindings_of_aligned takes aligned, stored, fits.get?]
    cases given : values.text? name with
    | none => simp
    | some text =>
      obtain ⟨named, _, _, same⟩ := fits.of_text? given
      refine (if_pos named).trans ?_
      rw [Option.map_some, same]
      rfl

/-- An optional segment at the end may be left out. -/
theorem href_stays_aligned_at_end :
    let values : Values := .ofList [("item", .text "robots"), ("field", .text "7")]
    ∃ route href after, Dialect.standard.compile "/items/:item/:field?/:id?" = .ok route ∧
      (route.resolve values false).1 = .ok href ∧
      route.accepts (.ofPath (.parse {} href)) = true ∧
      route.readValues (.ofPath (.parse {} href)) = (.ok values, after) := by
  intro values
  have facts : (Dialect.standard.compile "/items/:item/:field?/:id?").toOption.map (fun route =>
      (route.names, (route.resolve values false).1,
        route.segments.map (Segment.token? values.text?))) =
      some (["item", "field", "id"], .ok "/items/robots/7/",
        [some "items", some "robots", some "7", none]) := by
    decide
  have fits : values.FitsIn ["item", "field", "id"] :=
    .of_alphanumeric (by decide) (by decide)
  cases compiled : Dialect.standard.compile "/items/:item/:field?/:id?" with
  | error error =>
    rw [compiled] at facts
    cases facts
  | ok route =>
    rw [compiled] at facts
    simp only [Except.toOption, Option.map_some, Option.some.injEq, Prod.mk.injEq] at facts
    obtain ⟨names, resolved, tokens⟩ := facts
    have distinct : route.names.Nodup := by
      rw [names]
      decide
    rw [← names] at fits
    have aligned : (route.segments.map (Segment.token? values.text?)).Pairwise
        fun earlier later => earlier = none → later = none := by
      rw [tokens]
      decide
    obtain ⟨accepted, after, read⟩ :=
      (href_stays_aligned_iff (by decide) compiled distinct fits resolved).mpr
        (List.pairwise_map.mp aligned)
    exact ⟨route, _, after, rfl, resolved, accepted, read⟩

/-- The second of two optional segments is read as the first if that one is left out. -/
theorem href_moves_up :
    let values : Values := .ofList [("y", .text "7")]
    ∃ route after, Dialect.standard.compile "/a/:x?/:y?" = .ok route ∧
      IsLoose "/a/:x?/:y?" ∧ route.names = ["x", "y"] ∧
      (route.resolve values false).1 = .ok "/a/7/" ∧
      route.accepts (.ofPath (.parse {} "/a/7/")) = true ∧
      route.readValues (.ofPath (.parse {} "/a/7/")) =
        (.ok (.ofList [("x", .text "7")]), after) ∧
      Dictionary.ofList [("x", .text "7")] ≠ values := by
  intro values
  have facts : (Dialect.standard.compile "/a/:x?/:y?").toOption.map (fun route =>
      let cursor := Cursor.ofPath (.parse {} "/a/7/")
      (route.names, (route.resolve values false).1, route.accepts cursor,
        (route.readValues cursor).1)) =
      some (["x", "y"], .ok "/a/7/", true, .ok (.ofList [("x", .text "7")])) := by
    decide +kernel
  have different : Dictionary.ofList [("x", .text "7")] ≠ values := by
    decide +kernel
  cases compiled : Dialect.standard.compile "/a/:x?/:y?" with
  | error error =>
    rw [compiled] at facts
    cases facts
  | ok route =>
    rw [compiled] at facts
    simp only [Except.toOption, Option.map_some, Option.some.injEq, Prod.mk.injEq] at facts
    obtain ⟨names, resolved, accepted, read⟩ := facts
    exact ⟨route, _, rfl, by decide +kernel, names, resolved, accepted, Prod.ext read rfl,
      different⟩

end ScopedRouting
