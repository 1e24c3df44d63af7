import ScopedRouting.Proofs.Scope.Declared
import ScopedRouting.Proofs.Scope.Repetition
import ScopedRouting.Proofs.Scope.Termination

/-!
# Repeated evaluation

Evaluating a URL once more with the same values has the same outcome and does nothing: no handler
is called, no hook runs and every node stays as it is. It takes that no handler failed the first
time. An absolute URL is evaluated at the top above a scope, and so it also takes that the first
evaluation has not taken the scope off its tree.
-/
namespace ScopedRouting

open World

/-- In every world that comes about while scopes are only mounted below their parents in a forest,
an evaluation ends. If every handler that it called belongs to a step that was committed, then the
same evaluation has the same outcome and steps again, calls nothing and leaves the world as it is,
its trace included. For an absolute URL the top above the scope has to be the same. -/
theorem repeated_evaluation_does_nothing {n : Nat} {ν : Type} {forest : Forest n}
    {router : Router n ν} (mounts : router.MountsWithin forest) {world : World n ν}
    (reachable : world.Reachable forest) {fuel : Nat} (enough : n ≤ fuel) (scope : Fin n)
    (url : String) (defaults : Values) :
    ∃ evaluation after, world.eval router fuel scope url defaults = some (evaluation, after) ∧
      (after.calls = world.calls ++ Step.calls evaluation.steps →
        ((router.get scope).config.pathOf url).relative = true ∨
          after.root? scope = world.root? scope →
        after.eval router fuel scope url defaults =
          some (⟨evaluation.outcome, evaluation.steps.map fun step =>
            { step with invoked := false }⟩, after)) := by
  obtain ⟨evaluation, after, h⟩ := exists_eval mounts enough reachable.linked scope url defaults
  exact ⟨evaluation, after, h, fun passed top => eval_twice mounts reachable.linked h passed top⟩

theorem repeated_evaluation_of_areas :
    ∃ evaluation after,
      World.initial.eval areas 2 0 "/a/view/1" .empty = some (evaluation, after) ∧
        evaluation.steps.length = 2 ∧
        after.eval areas 2 0 "/a/view/1" .empty =
          some (⟨evaluation.outcome, evaluation.steps.map fun step =>
            { step with invoked := false }⟩, after) := by
  have facts : (World.initial.eval areas 2 0 "/a/view/1" .empty).map (fun result =>
      (result.1.steps.length, decide (result.2.calls = Step.calls result.1.steps),
        decide (result.2.root? 0 = World.root? (.initial : World 2 Unit) 0))) =
      some (2, true, true) := by
    decide +kernel
  obtain ⟨evaluation, after, h, again⟩ := repeated_evaluation_does_nothing areas_mountsWithin
    .initial (Nat.le_refl 2) 0 "/a/view/1" .empty
  rw [h] at facts
  simp only [Option.map_some, Option.some.injEq, Prod.mk.injEq, decide_eq_true_eq] at facts
  obtain ⟨steps, passed, top⟩ := facts
  exact ⟨evaluation, after, h, steps, again passed (.inr top)⟩

/-- A scope that is taken off its tree becomes its own top, and there the same absolute URL need
not match. -/
theorem repetition_differs_off_the_tree :
    areas.MountsWithin areasForest ∧
    ∃ world first second : World 2 Unit, ∃ once twice : Evaluation 2,
      world.Reachable areasForest ∧
        world.eval areas 2 1 "/home" .empty = some (once, first) ∧
        first.calls = world.calls ++ Step.calls once.steps ∧
        first.eval areas 2 1 "/home" .empty = some (twice, second) ∧
        once.outcome.isSuccess = true ∧ twice.outcome.isSuccess = false := by
  refine ⟨areas_mountsWithin, ?_⟩
  have facts : ((World.initial.eval areas 2 0 "/a/view/1" .empty).bind fun start =>
      (start.2.eval areas 2 1 "/home" .empty).bind fun once =>
        (once.2.eval areas 2 1 "/home" .empty).map fun twice =>
          (decide (once.2.calls = start.2.calls ++ Step.calls once.1.steps),
            once.1.outcome.isSuccess, twice.1.outcome.isSuccess)) = some (true, true, false) := by
    decide +kernel
  obtain ⟨⟨_, world⟩, visited, facts⟩ := Option.bind_eq_some_iff.mp facts
  obtain ⟨⟨once, first⟩, away, facts⟩ := Option.bind_eq_some_iff.mp facts
  obtain ⟨⟨twice, second⟩, again, facts⟩ := Option.map_eq_some_iff.mp facts
  simp only [Prod.mk.injEq, decide_eq_true_eq] at facts
  obtain ⟨passed, success, failure⟩ := facts
  exact ⟨world, first, second, once, twice, .evaluated areas_mountsWithin .initial visited, away,
    passed, again, success, failure⟩

end ScopedRouting
