import ScopedRouting.Proofs.Route.Hrefs

/-!
# Consuming values

Values that are consumed are taken out of the map one segment at a time, and nothing puts them back.
So a segment is resolved against what the segments before it have left: where two have the same
name, the second finds no value any more, and where one fails, those before it have taken theirs.
-/
namespace ScopedRouting

namespace Dictionary

variable {α : Type}

theorem erase_of_get?_eq_none {dict : Dictionary α} {key : String}
    (absent : dict.get? key = none) : dict.erase key = dict := by
  apply ext_get?
  intro other
  by_cases same : key = other
  · simp [← same, absent]
  · simp [same]

/-- A map that has lost some keys is the map that it was exactly if it had none of them. -/
theorem eq_iff_of_taken {dict left : Dictionary α} {keys : List String}
    (taken : ∀ key, left.get? key = if key ∈ keys then none else dict.get? key) :
    left = dict ↔ ∀ key ∈ keys, dict.get? key = none := by
  constructor
  · rintro rfl key member
    rw [taken, if_pos member]
  · intro absent
    apply ext_get?
    intro key
    rw [taken]
    split
    · rename_i member
      exact (absent key member).symm
    · rfl

end Dictionary

namespace Segment

/-- The name of a segment that cannot do without a value. -/
def required? : Segment → Option String
  | .value segment =>
    if segment.optional || segment.default.isSome then none else some segment.name
  | .literal _ | .wildcard | .relative => none

variable {segment : Segment} {values other : Values} {consume : Bool}

theorem name?_of_required? {name : String} (required : segment.required? = some name) :
    segment.name? = some name := by
  cases segment with
  | value segment =>
    rw [required?] at required
    split at required
    · cases required
    · exact required
  | literal _ => cases required
  | wildcard => cases required
  | relative => cases required

/-- What a segment is resolved to depends on the value of its name only. -/
theorem resolve_fst_congr (same : ∀ name ∈ segment.name?, values.get? name = other.get? name)
    (consume again : Bool) :
    (segment.resolve values consume).1 = (segment.resolve other again).1 := by
  cases segment with
  | value segment =>
    simp only [Segment.resolve, ValueSegment.resolve, same segment.name rfl]
    split
    · rfl
    · split
      · rfl
      · rfl
  | literal _ => rfl
  | wildcard => rfl
  | relative => rfl

/-- A segment fails exactly if it cannot do without the value that is missing. -/
theorem resolve_eq_error_iff {error : RouteError} :
    (segment.resolve values consume).1 = .error error ↔
      ∃ name, segment.required? = some name ∧ values.get? name = none ∧
        error = .missingValue name := by
  cases segment with
  | value segment =>
    simp only [Segment.resolve, ValueSegment.resolve, required?]
    cases given : values.get? segment.name with
    | some value => simp +contextual [given]
    | none =>
      cases segment.default with
      | some value => simp
      | none => cases segment.optional <;> simp [given, eq_comm]
  | literal _ => simp [Segment.resolve, required?]
  | wildcard => simp [Segment.resolve, required?]
  | relative => simp [Segment.resolve, required?]

theorem exists_resolve_eq_ok_iff :
    (∃ part, (segment.resolve values consume).1 = .ok part) ↔
      ∀ name ∈ segment.required?, values.get? name ≠ none := by
  cases outcome : (segment.resolve values consume).1 with
  | error error =>
    obtain ⟨name, required, missing, _⟩ := resolve_eq_error_iff.mp outcome
    simp [required, missing]
  | ok part =>
    refine ⟨fun _ name required missing => ?_, fun _ => ⟨part, rfl⟩⟩
    have failed : (segment.resolve values consume).1 = .error (.missingValue name) :=
      resolve_eq_error_iff.mpr ⟨name, required, missing, rfl⟩
    cases outcome.symm.trans failed

@[simp]
theorem resolve_snd_keeping (segment : Segment) (values : Values) :
    (segment.resolve values false).2 = values := by
  rw [resolve_snd, if_neg Bool.false_ne_true]

/-- With consumption, a segment takes the value of its name, if it has a name. -/
theorem get?_resolve_snd_consuming (segment : Segment) (values : Values) (name : String) :
    (segment.resolve values true).2.get? name =
      if segment.name? = some name then none else values.get? name := by
  split
  · rename_i named
    simp [resolve_snd, named]
  · rename_i other
    exact get?_resolve_snd other

/-- A segment that fails takes nothing. -/
theorem resolve_snd_of_error {error : RouteError}
    (failed : (segment.resolve values consume).1 = .error error) :
    (segment.resolve values consume).2 = values := by
  obtain ⟨name, required, missing, _⟩ := resolve_eq_error_iff.mp failed
  rw [resolve_snd, name?_of_required? required, Option.elim_some,
    Dictionary.erase_of_get?_eq_none missing, ite_self]

end Segment

namespace Route

variable {segment : Segment} {segments rest : List Segment} {values : Values} {consume : Bool}

theorem resolveSegments_cons_of_error {error : RouteError}
    (failed : (segment.resolve values consume).1 = .error error) :
    resolveSegments (segment :: rest) values consume = (.error error, values) := by
  have whole : segment.resolve values consume = (.error error, values) :=
    Prod.ext failed (Segment.resolve_snd_of_error failed)
  rw [resolveSegments, whole]

theorem resolveSegments_cons_of_ok {part : Option String}
    (resolved : (segment.resolve values consume).1 = .ok part) :
    resolveSegments (segment :: rest) values consume =
      ((resolveSegments rest (segment.resolve values consume).2 consume).1.map (part.toList ++ ·),
        (resolveSegments rest (segment.resolve values consume).2 consume).2) := by
  obtain ⟨left, whole⟩ : ∃ left, segment.resolve values consume = (.ok part, left) :=
    ⟨_, Prod.ext resolved rfl⟩
  rw [resolveSegments, whole]
  dsimp only
  rcases resolveSegments rest left consume with ⟨_ | _, _⟩
  · rfl
  · rfl

theorem resolve_eq (route : Route) (values : Values) (consume : Bool) :
    route.resolve values consume =
      ((resolveSegments route.segments values consume).1.map Path.join,
        (resolveSegments route.segments values consume).2) := by
  rw [resolve]
  rcases resolveSegments route.segments values consume with ⟨_ | _, _⟩
  · rfl
  · rfl

/-- Without consumption nothing is taken, whether a segment fails or not. -/
theorem resolveSegments_snd_keeping (segments : List Segment) (values : Values) :
    (resolveSegments segments values false).2 = values := by
  induction segments with
  | nil => rfl
  | cons segment rest ih =>
    cases outcome : (segment.resolve values false).1 with
    | error error => rw [resolveSegments_cons_of_error outcome]
    | ok part => simp [resolveSegments_cons_of_ok outcome, ih]

/-- With consumption, the names of all segments are gone in the end and no others. -/
theorem get?_resolveSegments_snd {parts : List String}
    (resolved : (resolveSegments segments values true).1 = .ok parts) (key : String) :
    (resolveSegments segments values true).2.get? key =
      if key ∈ segments.filterMap Segment.name? then none else values.get? key := by
  induction segments generalizing values parts with
  | nil => simp [resolveSegments]
  | cons segment rest ih =>
    obtain ⟨part, others, here, later, _⟩ := resolveSegments_cons_eq_ok_iff.mp resolved
    have listed : key ∈ (segment :: rest).filterMap Segment.name? ↔
        segment.name? = some key ∨ key ∈ rest.filterMap Segment.name? := by
      simp [List.mem_filterMap]
    rw [resolveSegments_cons_of_ok here]
    simp only [ih later, Segment.get?_resolve_snd_consuming, listed]
    by_cases again : key ∈ rest.filterMap Segment.name?
    · rw [if_pos again, if_pos (.inr again)]
    · simp only [again, if_false, or_false]

theorem exists_resolveSegments_cons_iff :
    (∃ parts, (resolveSegments (segment :: rest) values consume).1 = .ok parts) ↔
      (∀ name ∈ segment.required?, values.get? name ≠ none) ∧
        ∃ parts,
          (resolveSegments rest (segment.resolve values consume).2 consume).1 = .ok parts := by
  rw [← Segment.exists_resolve_eq_ok_iff]
  simp only [resolveSegments_cons_eq_ok_iff]
  constructor
  · rintro ⟨_, part, others, here, later, _⟩
    exact ⟨⟨part, here⟩, others, later⟩
  · rintro ⟨⟨part, here⟩, others, later⟩
    exact ⟨_, part, others, here, later, rfl⟩

/-- Without consumption, segments are resolved if no required value is missing. -/
theorem exists_resolveSegments_keeping_iff :
    (∃ parts, (resolveSegments segments values false).1 = .ok parts) ↔
      ∀ segment ∈ segments, ∀ name ∈ segment.required?, values.get? name ≠ none := by
  induction segments with
  | nil => simp [resolveSegments]
  | cons segment rest ih =>
    simp only [exists_resolveSegments_cons_iff, Segment.resolve_snd_keeping, ih,
      List.forall_mem_cons]

/-- With consumption, a required value must not have been taken by a segment before either. -/
theorem exists_resolveSegments_consuming_iff :
    (∃ parts, (resolveSegments segments values true).1 = .ok parts) ↔
      (∀ segment ∈ segments, ∀ name ∈ segment.required?, values.get? name ≠ none) ∧
        segments.Pairwise fun earlier later =>
          ∀ name ∈ earlier.name?, later.required? ≠ some name := by
  induction segments generalizing values with
  | nil => simp [resolveSegments]
  | cons segment rest ih =>
    -- what the others require of the map that is left splits into the map that was given and the
    -- name of the first, and the latter is its row of the pairwise condition
    have left : ∀ name, (segment.resolve values true).2.get? name ≠ none ↔
        segment.name? ≠ some name ∧ values.get? name ≠ none := by
      intro name
      rw [Segment.get?_resolve_snd_consuming]
      by_cases taken : segment.name? = some name <;> simp [taken]
    rw [exists_resolveSegments_cons_iff, ih, List.forall_mem_cons, List.pairwise_cons]
    simp only [left]
    constructor
    · rintro ⟨here, others, pairwise⟩
      exact ⟨⟨here, fun lower listed name required => (others lower listed name required).2⟩,
        fun lower listed name named required => (others lower listed name required).1 named,
        pairwise⟩
    · rintro ⟨⟨here, others⟩, untaken, pairwise⟩
      exact ⟨here, fun lower listed name required =>
        ⟨fun named => untaken lower listed name named required, others lower listed name required⟩,
        pairwise⟩

/-- Without consumption, only the values of the names count. -/
theorem resolveSegments_keeping_congr {other : Values}
    (same : ∀ name ∈ segments.filterMap Segment.name?, values.get? name = other.get? name) :
    (resolveSegments segments values false).1 = (resolveSegments segments other false).1 := by
  induction segments with
  | nil => rfl
  | cons segment rest ih =>
    have own : (segment.resolve values false).1 = (segment.resolve other false).1 :=
      Segment.resolve_fst_congr (fun name named =>
        same name (List.mem_filterMap.mpr ⟨segment, List.mem_cons_self, named⟩)) false false
    have others := ih fun name member => same name (by
      obtain ⟨lower, listed, named⟩ := List.mem_filterMap.mp member
      exact List.mem_filterMap.mpr ⟨lower, List.mem_cons_of_mem segment listed, named⟩)
    cases outcome : (segment.resolve values false).1 with
    | error error =>
      rw [resolveSegments_cons_of_error outcome, resolveSegments_cons_of_error (own ▸ outcome)]
    | ok part =>
      simp [resolveSegments_cons_of_ok outcome, resolveSegments_cons_of_ok (own ▸ outcome),
        others]

/-- Consumption makes no difference to what is resolved where no value has two segments. -/
theorem resolveSegments_fst_of_alone
    (alone : segments.Pairwise fun earlier later =>
      ∀ name ∈ earlier.name?, later.name? = some name → values.get? name = none) :
    (resolveSegments segments values true).1 = (resolveSegments segments values false).1 := by
  induction segments generalizing values with
  | nil => rfl
  | cons segment rest ih =>
    obtain ⟨first, others⟩ := List.pairwise_cons.mp alone
    have own : (segment.resolve values true).1 = (segment.resolve values false).1 :=
      Segment.resolve_fst_congr (fun _ _ => rfl) true false
    cases outcome : (segment.resolve values true).1 with
    | error error =>
      rw [resolveSegments_cons_of_error outcome, resolveSegments_cons_of_error (own ▸ outcome)]
    | ok part =>
      have rest_alone : (resolveSegments rest (segment.resolve values true).2 true).1 =
          (resolveSegments rest (segment.resolve values true).2 false).1 :=
        ih (others.imp fun {_ _} apart name named again => by
          rw [Segment.get?_resolve_snd_consuming, apart name named again, ite_self])
      -- without consumption the others cannot tell the two maps apart, since a name that they
      -- share with the first has no value in either
      have unchanged : (resolveSegments rest (segment.resolve values true).2 false).1 =
          (resolveSegments rest values false).1 := by
        refine resolveSegments_keeping_congr fun name member => ?_
        obtain ⟨lower, listed, again⟩ := List.mem_filterMap.mp member
        rw [Segment.get?_resolve_snd_consuming]
        split
        · rename_i named
          exact (first lower listed name named again).symm
        · rfl
      simp [resolveSegments_cons_of_ok outcome, resolveSegments_cons_of_ok (own ▸ outcome),
        rest_alone, unchanged]

/-- Where segments cannot be resolved, those before the first that fails have been, and what these
have left is left in the end. -/
theorem exists_failed_segment {error : RouteError}
    (failed : (resolveSegments segments values consume).1 = .error error) :
    ∃ before segment after parts left, segments = before ++ segment :: after ∧
      resolveSegments before values consume = (.ok parts, left) ∧
      (segment.resolve left consume).1 = .error error ∧
      (resolveSegments segments values consume).2 = left := by
  induction segments generalizing values with
  | nil => cases failed
  | cons segment rest ih =>
    cases outcome : (segment.resolve values consume).1 with
    | error own =>
      rw [resolveSegments_cons_of_error outcome] at failed ⊢
      cases failed
      exact ⟨[], segment, rest, [], values, rfl, rfl, outcome, rfl⟩
    | ok part =>
      rw [resolveSegments_cons_of_ok outcome] at failed ⊢
      obtain ⟨before, lower, after, parts, left, rfl, resolved, here, same⟩ :=
        ih (eq_error_of_map_eq_error failed)
      refine ⟨segment :: before, lower, after, part.toList ++ parts, left, rfl, ?_, here, same⟩
      rw [resolveSegments_cons_of_ok outcome, resolved]
      rfl

theorem exists_resolve_iff {route : Route} :
    (∃ path, (route.resolve values consume).1 = .ok path) ↔
      ∃ parts, (resolveSegments route.segments values consume).1 = .ok parts := by
  simp only [resolve_eq_ok_iff]
  constructor
  · rintro ⟨_, parts, resolved, _⟩
    exact ⟨parts, resolved⟩
  · rintro ⟨parts, resolved⟩
    exact ⟨_, parts, resolved, rfl⟩

end Route

open Template

/-- What consumption changes. A route resolves with consumption exactly if it does without and has
no segment that cannot do without a value whose name stands at a segment before. The path, or the
error, is the same unless a value has its name at two segments. Behind a path, the names of the
route are gone from the map and nothing else is. Without consumption the map stays as it is, whether
there is a path or not. -/
theorem consuming_agrees_where_unshared (route : Route) (values : Values) :
    ((∃ path, (route.resolve values true).1 = .ok path) ↔
      (∃ path, (route.resolve values false).1 = .ok path) ∧
        route.segments.Pairwise fun earlier later =>
          ∀ name ∈ earlier.name?, later.required? ≠ some name) ∧
    ((route.segments.Pairwise fun earlier later =>
        ∀ name ∈ earlier.name?, later.name? = some name → values.get? name = none) →
      (route.resolve values true).1 = (route.resolve values false).1) ∧
    (∀ path, (route.resolve values true).1 = .ok path → ∀ key,
      (route.resolve values true).2.get? key =
        if key ∈ route.names then none else values.get? key) ∧
    (route.resolve values false).2 = values := by
  refine ⟨?_, fun alone => ?_, fun path resolved key => ?_, ?_⟩
  · rw [Route.exists_resolve_iff, Route.exists_resolve_iff,
      Route.exists_resolveSegments_consuming_iff, Route.exists_resolveSegments_keeping_iff]
  · rw [Route.resolve_eq, Route.resolve_eq, Route.resolveSegments_fst_of_alone alone]
  · obtain ⟨parts, written, _⟩ := Route.resolve_eq_ok_iff.mp resolved
    rw [Route.resolve_eq]
    exact Route.get?_resolveSegments_snd written key
  · rw [Route.resolve_eq, Route.resolveSegments_snd_keeping]

/-- The names of a route are different, and what it has no segment for is left over. -/
theorem consuming_agrees_for_items :
    let values : Values := .ofList [("item", .text "robots"), ("mode", .text "get")]
    ∃ route, Dialect.standard.compile "/items/:item/:+id?7/*" = .ok route ∧
      (route.resolve values true).1 = .ok "/items/robots/7/" ∧
      (route.resolve values true).2.get? "item" = none ∧
      (route.resolve values true).2.get? "mode" = some (.text "get") := by
  intro values
  have facts : (Dialect.standard.compile "/items/:item/:+id?7/*").toOption.map (fun route =>
      (route.segments.map Segment.name?, route.names, (route.resolve values false).1)) =
      some ([none, some "item", some "id"], ["item", "id"], .ok "/items/robots/7/") := by
    decide +kernel
  obtain ⟨route, compiled, facts⟩ := exists_ok_of_toOption_map facts
  simp only [Prod.mk.injEq] at facts
  obtain ⟨placed, names, resolved⟩ := facts
  have different : (route.segments.map Segment.name?).Pairwise fun earlier later =>
      ∀ name ∈ earlier, later = some name → values.get? name = none := by
    rw [placed]
    decide
  obtain ⟨_, agree, left, _⟩ := consuming_agrees_where_unshared route values
  have path := (agree (List.pairwise_map.mp different)).trans resolved
  refine ⟨route, compiled, path, ?_, ?_⟩
  · rw [left _ path, names]
    rfl
  · rw [left _ path, names]
    decide

/-- The second of two segments for the same value finds nothing. -/
theorem consuming_starves_second_segment :
    let values : Values := .ofList [("a", .text "x")]
    ∃ route, Dialect.standard.compile "/:a/:a" = .ok route ∧
      route.resolve values false = (.ok "/x/x/", values) ∧
      (route.resolve values true).1 = .error (.missingValue "a") := by
  intro values
  have facts : (Dialect.standard.compile "/:a/:a").toOption.map (fun route =>
      (route.resolve values false, (route.resolve values true).1)) =
      some ((.ok "/x/x/", values), .error (.missingValue "a")) := by
    rfl
  obtain ⟨route, compiled, facts⟩ := exists_ok_of_toOption_map facts
  exact ⟨route, compiled, Prod.mk.inj facts⟩

/-- What a failed resolving has taken. The error is about a segment that cannot do without a value
which is missing, or which a segment before has taken. The segments before it have been resolved,
their names are gone from the map and nothing else is. So the map is as it was exactly if it had no
value for any of these names. -/
theorem failed_resolve_has_taken_before {route : Route} {values : Values} {error : RouteError}
    (failed : (route.resolve values true).1 = .error error) :
    ∃ before segment after name, route.segments = before ++ segment :: after ∧
      segment.required? = some name ∧ error = .missingValue name ∧
      (values.get? name = none ∨ name ∈ before.filterMap Segment.name?) ∧
      (∃ parts, (Route.resolveSegments before values true).1 = .ok parts) ∧
      (∀ key, (route.resolve values true).2.get? key =
        if key ∈ before.filterMap Segment.name? then none else values.get? key) ∧
      ((route.resolve values true).2 = values ↔
        ∀ key ∈ before.filterMap Segment.name?, values.get? key = none) := by
  rw [Route.resolve_eq] at failed ⊢
  obtain ⟨before, segment, after, parts, left, segments, resolved, here, same⟩ :=
    Route.exists_failed_segment (eq_error_of_map_eq_error failed)
  obtain ⟨name, required, missing, rfl⟩ := Segment.resolve_eq_error_iff.mp here
  have written : (Route.resolveSegments before values true).1 = .ok parts := by rw [resolved]
  have taken : ∀ key, left.get? key =
      if key ∈ before.filterMap Segment.name? then none else values.get? key := by
    intro key
    rw [← Route.get?_resolveSegments_snd written, resolved]
  refine ⟨before, segment, after, name, segments, required, rfl, ?_, ⟨parts, written⟩, ?_, ?_⟩
  · rw [taken] at missing
    by_cases before_here : name ∈ before.filterMap Segment.name?
    · exact .inr before_here
    · rw [if_neg before_here] at missing
      exact .inl missing
  · rw [same]
    exact taken
  · rw [same]
    exact Dictionary.eq_iff_of_taken taken

/-- The value before the missing one is gone, the one behind it is still there. -/
theorem failed_resolve_has_taken_first :
    let values : Values := .ofList [("a", .text "x"), ("c", .text "z")]
    ∃ route, Dialect.standard.compile "/:a/:b/:c" = .ok route ∧
      (route.resolve values true).1 = .error (.missingValue "b") ∧
      (route.resolve values true).2.get? "a" = none ∧
      (route.resolve values true).2.get? "c" = some (.text "z") := by
  intro values
  have facts : (Dialect.standard.compile "/:a/:b/:c").toOption.map (fun route =>
      (route.names, (route.resolve values true).1)) =
      some (["a", "b", "c"], .error (.missingValue "b")) := by
    decide
  obtain ⟨route, compiled, facts⟩ := exists_ok_of_toOption_map facts
  obtain ⟨names, failed⟩ := Prod.mk.inj facts
  obtain ⟨before, segment, after, name, segments, required, same, _, _, left, _⟩ :=
    failed_resolve_has_taken_before failed
  cases same
  have named := Segment.name?_of_required? required
  rw [Route.names, segments, List.filterMap_append, List.filterMap_cons_some named] at names
  -- the name that fails stands second among three different ones, so only the first is before it
  generalize before.filterMap Segment.name? = taken at names left
  obtain rfl : taken = ["a"] := by
    rcases taken with _ | ⟨first, _ | ⟨second, others⟩⟩
    · simp at names
    · rw [List.head_eq_of_cons_eq names]
    · cases others <;> simp at names
  refine ⟨route, compiled, failed, ?_, ?_⟩
  · rw [left]
    rfl
  · rw [left]
    decide

/-- The value of the first segment is lost to the second, which has none. -/
theorem failed_resolve_loses_value :
    let values : Values := .ofList [("a", .text "x")]
    ∃ route, Dialect.standard.compile "/:a/:b" = .ok route ∧
      route.resolve values true = (.error (.missingValue "b"), .empty) ∧
      Dictionary.empty ≠ values := by
  intro values
  have facts : (Dialect.standard.compile "/:a/:b").toOption.map (fun route =>
      route.resolve values true) = some (.error (.missingValue "b"), .empty) := by
    decide
  have different : Dictionary.empty ≠ values := by decide
  obtain ⟨route, compiled, facts⟩ := exists_ok_of_toOption_map facts
  exact ⟨route, compiled, facts, different⟩

end ScopedRouting
