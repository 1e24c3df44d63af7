import ScopedRouting.Proofs.Scope.Declared

/-!
# Evaluations read what they match

A route that is compiled from a template reads whatever it accepts. Tables hold such routes only,
and a search gives entries that accept the cursor, so that no evaluation fails on reading values.
-/
namespace ScopedRouting

open Template

namespace World

variable {n : Nat} {ν : Type} {router : Router n ν}

theorem readValues_of_search (faithful : router.Faithful) {cursor : Cursor} {world : World n ν}
    {scope : Fin n} {found : Found n ν}
    (h : world.search router cursor scope = some (some found)) :
    found.entry.route.readValues cursor =
      (.ok (found.entry.route.valuesAt cursor),
        cursor.advance found.entry.route.segments.length) := by
  obtain ⟨member, accepted⟩ := accepts_of_find? (find?_of_searchWith h)
  obtain ⟨dialect, declarations, dialect_faithful, built⟩ := faithful found.scope
  obtain ⟨_, _, compiled, _⟩ := Table.declared_of_build built found.entry member
  exact Route.readValues_of_accepts (dialect_faithful.readable_of_compile compiled) accepted

theorem outcome_ne_unreadable (faithful : router.Faithful) {fuel : Nat} {scope : Fin n}
    {request : Request} {world after : World n ν} {evaluation : Evaluation n}
    (h : world.handle router fuel scope request = some (evaluation, after)) :
    evaluation.outcome ≠ .failure .unreadableValues := by
  obtain ⟨less, rfl, ⟨_, rfl, _⟩ | ⟨found, search, handled⟩⟩ := handle_cases h
  · intro same
    cases same
  · cases handled with
    | unreadable read =>
      rw [readValues_of_search faithful search] at read
      cases read
    | failed read call =>
      intro same
      cases same
    | passed read call cascade =>
      intro same
      cases same

end World

/-- Whatever a compiled route matches it reads: each dynamic segment stores the value of its
token, or its default where no token is left, a later segment over an earlier one. The standard
dialect is one in which this holds, and no evaluation over such routes fails on reading. -/
theorem matches_are_readable :
    Dialect.standard.Faithful ∧
    (∀ (dialect : Dialect) (template : String) (route : Route) (cursor : Cursor),
      dialect.Faithful → dialect.compile template = .ok route → route.accepts cursor = true →
      ∃ after, route.readValues cursor =
          (.ok (.ofList (route.segments.zipIdx.filterMap fun placed =>
            placed.1.binding? (cursor.peek placed.2))), after) ∧
        after = { cursor with
          position := cursor.position + min cursor.remaining route.segments.length } ∧
        (route.wildcard = false → after.isExhausted = true)) ∧
    ∀ (n : Nat) (ν : Type) (router : Router n ν), router.Faithful →
      ∀ (fuel : Nat) (scope : Fin n) (world after : World n ν) (evaluation : Evaluation n),
        (∀ request, world.handle router fuel scope request = some (evaluation, after) →
          evaluation.outcome ≠ .failure .unreadableValues) ∧
        ∀ url defaults, world.eval router fuel scope url defaults = some (evaluation, after) →
          evaluation.outcome ≠ .failure .unreadableValues := by
  refine ⟨Dialect.faithful_standard, ?_, ?_⟩
  · intro dialect template route cursor faithful compiled accepted
    exact ⟨_, Route.readValues_of_accepts (faithful.readable_of_compile compiled) accepted, rfl,
      Route.isExhausted_advance_of_accepts accepted⟩
  · intro n ν router faithful fuel scope world after evaluation
    constructor
    · intro request h
      exact World.outcome_ne_unreadable faithful h
    · intro url defaults h
      obtain ⟨owner, request, _, handled⟩ := World.eval_eq_some_iff.mp h
      exact World.outcome_ne_unreadable faithful handled

theorem matches_are_readable_sample :
    (∃ route after, Dialect.standard.compile "/items/:item/:view?all" = .ok route ∧
      route.readValues (.ofTokens ["items", "a b"]) =
        (.ok (.ofList [("item", .text "a b"), ("view", .text "all")]), after) ∧
      after.position = 2 ∧ after.isExhausted = true) ∧
    ∃ evaluation after,
      World.initial.eval areas 2 0 "/a/view/1" .empty = some (evaluation, after) ∧
        evaluation.outcome ≠ .failure .unreadableValues := by
  constructor
  · have facts : (Dialect.standard.compile "/items/:item/:view?all").toOption.map (fun route =>
        (route.accepts (.ofTokens ["items", "a b"]), route.wildcard, route.segments.length,
          route.segments.zipIdx.filterMap fun placed =>
            placed.1.binding? ((Cursor.ofTokens ["items", "a b"]).peek placed.2))) =
        some (true, false, 3, [("item", .text "a b"), ("view", .text "all")]) := by
      decide +kernel
    cases compiled : Dialect.standard.compile "/items/:item/:view?all" with
    | error error =>
      rw [compiled] at facts
      cases facts
    | ok route =>
      rw [compiled] at facts
      simp only [Except.toOption, Option.map_some, Option.some.injEq, Prod.mk.injEq] at facts
      obtain ⟨accepted, no_wildcard, length, bindings⟩ := facts
      obtain ⟨after, read, rfl, exhausted⟩ := matches_are_readable.2.1 _ _ route
        (.ofTokens ["items", "a b"]) matches_are_readable.1 compiled accepted
      rw [bindings] at read
      refine ⟨route, _, rfl, read, ?_, exhausted no_wildcard⟩
      rw [length]
      rfl
  · have ends : (World.initial.eval areas 2 0 "/a/view/1" .empty).isSome = true := by
      decide +kernel
    obtain ⟨⟨evaluation, after⟩, h⟩ := Option.isSome_iff_exists.mp ends
    exact ⟨evaluation, after, h, (matches_are_readable.2.2 2 Unit areas
      (Router.faithful_plain _ _) 2 0 .initial after evaluation).2 _ _ h⟩

end ScopedRouting
