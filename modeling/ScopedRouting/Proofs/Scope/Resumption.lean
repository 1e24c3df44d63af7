import ScopedRouting.Proofs.Path.Rereading
import ScopedRouting.Proofs.Scope.Conservation
import ScopedRouting.Proofs.Scope.Repetition

/-!
# Relative URLs behind an evaluation

A relative URL is evaluated behind the tokens of the root path of its scope. These are read again
from the text of the root path, and that gives back the tokens that the scopes above have taken
only if each of them is read as it stands.
-/
namespace ScopedRouting

theorem Covers.of_mem {n : Nat} {tokens : List String} {steps : List (Step n)} {start stop : Nat}
    (covers : Covers tokens start steps stop) (within : start ≤ tokens.length) {step : Step n}
    (member : step ∈ steps) :
    step.root = Path.join (tokens.take step.start) ∧ step.start ≤ tokens.length := by
  induction covers with
  | none => cases member
  | more starts _ inside _ root _ ih =>
    rcases List.mem_cons.mp member with rfl | member
    · rw [starts]
      exact ⟨root, within⟩
    · exact ih inside member

theorem Cursor.resumed_eq (taken rest : List String) :
    Cursor.resumed (taken ++ rest) taken.length = ⟨taken ++ rest, taken.length, true⟩ := by
  rw [Cursor.resumed, List.length_append, Nat.min_eq_left (Nat.le_add_right _ _)]

open World

/-- The cursor of a relative URL that is evaluated on a scope behind an absolute evaluation. It
stands behind the tokens that the scopes above have taken, with the tokens of the URL to come, if
and only if each of these tokens is read as it stands and the first is not the indicator. Then the
URL of a success is the text of all these tokens. -/
theorem relative_url_resumes_iff {n : Nat} {ν : Type} {router : Router n ν} {config : Config}
    (shared : ∀ scope, (router.get scope).config = config) {fuel : Nat} {scope owner : Fin n}
    {path : String} {values : Values} {query : Query} {world after : World n ν}
    {evaluation : Evaluation n} {step : Step n}
    (h : world.handle router fuel scope
      ⟨"/", .ofPath (.parse config.pathOptions path), values, query⟩ = some (evaluation, after))
    (committed : evaluation.steps.find? (·.route.scope = owner) = some step) {url : String}
    (relative : (config.pathOf url).relative = true) (defaults : Values) :
    let taken := (Path.parse config.pathOptions path).segments.take step.start
    let rest := (config.pathOf url).segments
    (after.node owner).state = ⟨some step.data, step.root⟩ ∧
    ∃ request, after.locate router owner url defaults = some (owner, request) ∧
      (request.cursor = ⟨taken ++ rest, step.start, true⟩ ↔
        (∀ token ∈ taken, pathSeparator ∉ token.toList ∧ Percent.decodeOrKeep token = token) ∧
          taken.head? ≠ some config.relativeIndicator) ∧
      (request.cursor = ⟨taken ++ rest, step.start, true⟩ →
        ∀ fuel result last reached merged,
          after.eval router fuel owner url defaults = some (result, last) →
            result.outcome = .success reached merged → reached = Path.join (taken ++ rest)) := by
  intro taken rest
  have state := state_of_handle h committed
  obtain ⟨stop, covers⟩ : ∃ stop, Covers (Path.parse config.pathOptions path).segments 0
      evaluation.steps stop := covers_of_handle rfl (Nat.zero_le _) h
  obtain ⟨root, inside⟩ := covers.of_mem (Nat.zero_le _) (List.mem_of_find?_eq_some committed)
  have count : taken.length = step.start := by
    rw [List.length_take]
    exact Nat.min_eq_left inside
  have nonempty : ∀ token ∈ taken, token ≠ "" := fun token member =>
    Path.nonempty_of_parse token (List.mem_of_mem_take member)
  have own : ((router.get owner).config.pathOf url).relative = true := by
    rw [shared]
    exact relative
  have located := locate_of_relative own defaults after
  dsimp only at located
  rw [shared, state] at located
  generalize reread : (Path.parse config.pathOptions step.root).segments = again at located
  have same_iff : again = taken ↔ (Cursor.resumed (again ++ rest) again.length) =
      ⟨taken ++ rest, step.start, true⟩ := by
    rw [Cursor.resumed_eq, ← count]
    constructor
    · rintro rfl
      rfl
    · intro same
      exact List.append_cancel_right (congrArg Cursor.tokens same)
  refine ⟨state, _, located, ?_, ?_⟩
  · rw [← same_iff, ← reread, root]
    exact Path.segments_parse_join_iff nonempty
  · intro cursor fuel result last reached merged evaluated success
    obtain ⟨place, request, located', handled⟩ := eval_eq_some_iff.mp evaluated
    cases located.symm.trans located'
    rw [(success_of_handle handled success).1, cursor]

theorem relative_url_resumes_in_areas :
    ∃ evaluation after step request,
      World.initial.handle areas 2 0 ⟨"/", .ofPath (.parse {} "/a/view/1"), .empty, .empty⟩ =
        some (evaluation, after) ∧
      evaluation.steps.find? (·.route.scope = 1) = some step ∧
      after.locate areas 1 "./view/2" .empty = some (1, request) ∧
      request.cursor = ⟨["a", "view", "2"], 1, true⟩ := by
  have shared : ∀ scope, (areas.get scope).config = { baseUrl := "app:/" } := by
    intro scope
    change (areas[scope.val]).config = _
    simp only [areas, Router.plain, Vector.getElem_ofFn]
  have facts : ((World.initial.handle areas 2 0
      ⟨"/", .ofPath (.parse {} "/a/view/1"), .empty, .empty⟩).bind fun first =>
        (first.1.steps.find? (·.route.scope = 1)).map (·.start)) = some 1 := by
    decide +kernel
  obtain ⟨⟨evaluation, after⟩, h, facts⟩ := Option.bind_eq_some_iff.mp facts
  obtain ⟨step, committed, start⟩ := Option.map_eq_some_iff.mp facts
  have relative : (({ baseUrl := "app:/" } : Config).pathOf "./view/2").relative = true := by
    decide +kernel
  have taken : (Path.parse {} "/a/view/1").segments.take 1 = ["a"] := by decide +kernel
  have rest : (({ baseUrl := "app:/" } : Config).pathOf "./view/2").segments = ["view", "2"] := by
    decide +kernel
  obtain ⟨_, request, located, exact_iff, _⟩ :=
    relative_url_resumes_iff shared h committed relative .empty
  refine ⟨evaluation, after, step, request, h, committed, located, ?_⟩
  change request.cursor = ⟨(Path.parse {} "/a/view/1").segments.take step.start ++ _, _, _⟩ ↔
    (∀ token ∈ (Path.parse {} "/a/view/1").segments.take step.start, _) ∧ _ at exact_iff
  rw [start, taken, rest] at exact_iff
  apply exact_iff.mpr
  decide +kernel

/-- An escape that was encoded itself stays in a token, and is decoded when the root path is read
again. -/
theorem relative_url_resumes_elsewhere :
    ∃ evaluation after step request result last merged,
      World.initial.eval areas 2 0 "/a%252Fb/view/1" .empty = some (evaluation, after) ∧
      evaluation.outcome.relativeUrl? = some "/a%2Fb/view/1/" ∧
      evaluation.steps.find? (·.route.scope = 1) = some step ∧ step.start = 1 ∧
      after.locate areas 1 "./view/2" .empty = some (1, request) ∧
      request.cursor = ⟨["a/b", "view", "2"], 1, true⟩ ∧
      after.eval areas 2 1 "./view/2" .empty = some (result, last) ∧
      result.outcome = .success "/a/b/view/2/" merged := by
  have facts : ((World.initial.eval areas 2 0 "/a%252Fb/view/1" .empty).bind fun first =>
      (first.1.steps.find? (·.route.scope = 1)).bind fun step =>
        (first.2.locate areas 1 "./view/2" .empty).bind fun located =>
          (first.2.eval areas 2 1 "./view/2" .empty).map fun second =>
            (first.1.outcome.relativeUrl?, step.start, located.1, located.2.cursor,
              second.1.outcome)) =
      some (some "/a%2Fb/view/1/", 1, 1, ⟨["a/b", "view", "2"], 1, true⟩,
        .success "/a/b/view/2/" .empty) := by
    decide +kernel
  obtain ⟨⟨evaluation, after⟩, h, facts⟩ := Option.bind_eq_some_iff.mp facts
  obtain ⟨step, committed, facts⟩ := Option.bind_eq_some_iff.mp facts
  obtain ⟨⟨place, request⟩, located, facts⟩ := Option.bind_eq_some_iff.mp facts
  obtain ⟨⟨result, last⟩, again, facts⟩ := Option.map_eq_some_iff.mp facts
  simp only [Prod.mk.injEq] at facts
  obtain ⟨url, start, rfl, cursor, reached⟩ := facts
  exact ⟨evaluation, after, step, request, result, last, .empty, h, url, committed, start, located,
    cursor, again, reached⟩

end ScopedRouting
