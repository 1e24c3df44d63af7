import ScopedRouting.Proofs.Scope.Orderly
import ScopedRouting.Proofs.Scope.Postorder
import ScopedRouting.Proofs.Scope.Repetition

/-!
# Batches that alternate

A scope runs its activate hooks when it is mounted and its deactivate hooks when it is taken off
again. As long as handlers only mount scopes below their parents and only mounted scopes are
deactivated, the batches of a scope alternate, and the last of them tells whether it is mounted. It
does not matter which hooks fail.
-/
namespace ScopedRouting

variable {n : Nat} {ν : Type} {router : Router n ν} {forest : Forest n}

/-- Whether phases alternate from an activation on, and the last one says whether a scope is
active. -/
structure Phase.InTurn (phases : List Phase) (active : Prop) : Prop where
  first : phases.head? ≠ some .deactivate
  chain : phases.IsChain (· ≠ ·)
  last_iff : phases.getLast? = some .activate ↔ active

namespace Phase.InTurn

variable {phases : List Phase} {active still : Prop}

theorem nil (inactive : ¬ active) : InTurn [] active := by
  refine ⟨by simp, .nil, by simpa using inactive⟩

theorem congr (inTurn : InTurn phases active) (same : active ↔ still) : InTurn phases still :=
  ⟨inTurn.first, inTurn.chain, inTurn.last_iff.trans same⟩

theorem activate (inTurn : InTurn phases active) (inactive : ¬ active) (mounted : still) :
    InTurn (phases ++ [.activate]) still := by
  have last : phases.getLast? ≠ some .activate := fun same => inactive (inTurn.last_iff.mp same)
  refine ⟨?_, ?_, by simpa using mounted⟩
  · cases phases with
    | nil => simp
    | cons phase rest => exact inTurn.first
  · refine inTurn.chain.append (List.isChain_singleton _) ?_
    rintro phase member _ next rfl
    cases next
    exact last member

theorem deactivate (inTurn : InTurn phases active) (mounted : active) (inactive : ¬ still) :
    InTurn (phases ++ [.deactivate]) still := by
  have last : phases.getLast? = some .activate := inTurn.last_iff.mpr mounted
  refine ⟨?_, ?_, by simpa using inactive⟩
  · cases phases with
    | nil => cases last
    | cons phase rest => exact inTurn.first
  · refine inTurn.chain.append (List.isChain_singleton _) ?_
    rintro phase member _ next rfl
    cases next
    cases last.symm.trans member

end Phase.InTurn

/-- The phase of an event that is a batch of this scope. -/
def Event.phase? (scope : Fin n) : Event n ν → Option Phase
  | .hooksRan other phase => if other = scope then some phase else none
  | .invoked _ _ => none
  | .noted _ => none

@[simp]
theorem Router.phases_batch (router : Router n ν) (phase : Phase) (other scope : Fin n) :
    (router.batch phase other).filterMap (Event.phase? scope) =
      if other = scope then [phase] else [] := by
  have silent : ∀ notes : List ν,
      (notes.map Event.noted).filterMap (Event.phase? scope : Event n ν → _) = [] := by
    intro notes
    simp [List.filterMap_map, Event.phase?]
  by_cases same : other = scope <;>
    simp [Router.batch, same, Event.phase?, List.filterMap_flatMap, silent]

/-- Scopes that are deactivated once each run one batch each. -/
theorem Router.phases_batches (router : Router n ν) (phase : Phase) {order : List (Fin n)}
    (nodup : order.Nodup) (scope : Fin n) :
    (order.flatMap (router.batch phase)).filterMap (Event.phase? scope) =
      if scope ∈ order then [phase] else [] := by
  induction order with
  | nil => simp
  | cons first rest ih =>
    obtain ⟨fresh, rest_nodup⟩ := List.nodup_cons.mp nodup
    by_cases same : first = scope
    · subst same
      simp [ih rest_nodup, fresh]
    · simp [ih rest_nodup, same, Ne.symm same]

namespace World

variable {world after : World n ν} {parent child : Fin n}

/-- The phases of the batches that a scope has run, the oldest first. -/
def phases (scope : Fin n) (world : World n ν) : List Phase :=
  world.trace.filterMap (Event.phase? scope)

theorem phases_of_trace {events : List (Event n ν)} (trace : after.trace = world.trace ++ events)
    (scope : Fin n) :
    after.phases scope = world.phases scope ++ events.filterMap (Event.phase? scope) := by
  rw [phases, trace, List.filterMap_append]
  rfl

/-- Whether the batches of every scope have been in turn. -/
def InTurn (world : World n ν) : Prop :=
  ∀ scope, Phase.InTurn (world.phases scope) ((world.node scope).parent ≠ none)

theorem inTurn_initial : (World.initial : World n ν).InTurn := by
  intro scope
  apply Phase.InTurn.nil
  simp

/-- Events that are no batches and changes that keep parents do not matter. -/
theorem InTurn.of_same {events : List (Event n ν)} (inTurn : world.InTurn)
    (trace : after.trace = world.trace ++ events)
    (silent : ∀ scope, events.filterMap (Event.phase? scope) = [])
    (parents : ∀ scope, (after.node scope).parent = (world.node scope).parent) : after.InTurn := by
  intro scope
  rw [phases_of_trace trace, silent, List.append_nil, parents]
  exact inTurn scope

/-- The parent that a scope belongs below lists it exactly if it is mounted at all. -/
theorem Linked.mem_children_iff_mounted (linked : world.Linked forest)
    (link : forest.upward child = some parent) :
    child ∈ (world.node parent).children ↔ (world.node child).parent ≠ none := by
  rw [linked.mem_children_iff]
  constructor
  · intro upper
    simp [upper]
  · intro mounted
    obtain ⟨other, upper⟩ := Option.ne_none_iff_exists'.mp mounted
    rw [upper, ← link, linked.upward_of_parent upper]

/-- A mount runs the activate hooks of a scope exactly if it had no parent. -/
theorem InTurn.activate (inTurn : world.InTurn) (linked : world.Linked forest)
    (link : forest.upward child = some parent) (router : Router n ν) (route : RouteId n) :
    (world.activate router parent child route).1.InTurn := by
  have different := Forest.ne_of_link link
  have listed_iff := linked.mem_children_iff_mounted link
  intro scope
  rw [phases_of_trace (trace_activate different route), parent_activate different]
  by_cases mine : scope = child
  · subst mine
    rw [if_pos rfl]
    by_cases listed : scope ∈ (world.node parent).children
    · rw [if_pos listed, List.filterMap_nil, List.append_nil]
      exact (inTurn scope).congr (iff_of_true (listed_iff.mp listed) (by simp))
    · simp only [listed, if_false, Router.phases_batch, if_true]
      exact (inTurn scope).activate (fun mounted => listed (listed_iff.mpr mounted)) (by simp)
  · have silent : (if child ∈ (world.node parent).children then []
        else router.batch .activate child).filterMap (Event.phase? scope) = [] := by
      split
      · rfl
      · simp [Ne.symm mine]
    rw [if_neg mine, silent, List.append_nil]
    exact inTurn scope

/-- A deactivation runs the deactivate hooks of the scopes below a mounted scope, once each, and all
of these had a parent. -/
theorem InTurn.deactivate (inTurn : world.InTurn) (linked : world.Linked forest)
    {scope : Fin n} (mounted : (world.node scope).parent ≠ none) (router : Router n ν) :
    (world.deactivate router scope).1.InTurn := by
  obtain ⟨order, inOrder, retired, _⟩ := linked.deactivate_inOrder router scope
  have nodup := inOrder.nodup linked (.singleton forest scope)
  have trace : (world.deactivate router scope).1.trace =
      world.trace ++ order.flatMap (router.batch .deactivate) := by
    simp [retired.trace]
  intro other
  rw [phases_of_trace trace, Router.phases_batches router .deactivate nodup, retired.node]
  by_cases member : other ∈ order
  · rw [if_pos member, if_pos member]
    refine (inTurn other).deactivate ?_ (by simp)
    rcases inOrder.mem_or_listed member with top | ⟨upper, listed⟩
    · rw [List.mem_singleton.mp top]
      exact mounted
    · simp [linked.mem_children_iff.mp listed]
  · rw [if_neg member, if_neg member, List.append_nil, parent_detach, if_neg]
    · exact inTurn other
    · rintro rfl
      exact member (inOrder.roots_sublist.subset (List.mem_singleton_self other))

/-- Orderly changes keep batches in turn. -/
theorem InTurn.step {moment : Moment n ν} (inTurn : moment.world.InTurn)
    (linked : moment.world.Linked forest) (leads : moment.LeadsTo router after)
    (orderly : moment.Orderly forest) : after.InTurn := by
  cases leads with
  | noted world what => exact inTurn.of_same rfl (fun _ => rfl) (by simp)
  | mounted world parent child route =>
    by_cases same : child = parent
    · simpa [same] using inTurn
    · exact inTurn.activate linked (orderly same) router route
  | deactivated world scope => exact inTurn.deactivate linked orderly router
  | called world _ _ => exact inTurn.of_same rfl (fun _ => rfl) fun _ => rfl
  | skipped world _ _ => exact inTurn
  | committed world step =>
    exact inTurn.of_same (List.append_nil _).symm (fun _ => rfl) (by simp)

/-- Evaluations keep batches in turn if scopes are only mounted below their parents. -/
theorem InTurn.handle {fuel : Nat} {scope : Fin n} {request : Request} {evaluation : Evaluation n}
    (inTurn : world.InTurn) (mounts : router.MountsWithin forest) (linked : world.Linked forest)
    (h : world.handle router fuel scope request = some (evaluation, after)) : after.InTurn :=
  (throughout_of_handle mounts (fun leads orderly linked inTurn =>
    inTurn.step linked leads orderly) linked inTurn h).2

/-- The worlds that come about while scopes are only mounted below their parents in a forest and are
only deactivated while they are mounted. What handlers and hooks do may be different each time. -/
inductive Evolves (forest : Forest n) : World n ν → Prop
  | initial : Evolves forest .initial
  | evaluated {router : Router n ν} {fuel : Nat} {scope : Fin n} {url : String}
      {defaults : Values} {world after : World n ν} {evaluation : Evaluation n}
      (mounts : router.MountsWithin forest) (before : Evolves forest world)
      (h : world.eval router fuel scope url defaults = some (evaluation, after)) :
      Evolves forest after
  | handled {router : Router n ν} {fuel : Nat} {scope : Fin n} {request : Request}
      {world after : World n ν} {evaluation : Evaluation n}
      (mounts : router.MountsWithin forest) (before : Evolves forest world)
      (h : world.handle router fuel scope request = some (evaluation, after)) :
      Evolves forest after
  | mounted {router : Router n ν} {parent child : Fin n} {world : World n ν}
      (link : forest.upward child = some parent) (route : RouteId n)
      (before : Evolves forest world) :
      Evolves forest (world.activate router parent child route).1
  | deactivated {router : Router n ν} {scope : Fin n} {world : World n ν}
      (mounted : (world.node scope).parent ≠ none) (before : Evolves forest world) :
      Evolves forest (world.deactivate router scope).1

theorem Evolves.reachable (evolves : Evolves forest world) : world.Reachable forest := by
  induction evolves with
  | initial => exact .initial
  | evaluated mounts _ h ih => exact .evaluated mounts ih h
  | handled mounts _ h ih => exact .handled mounts ih h
  | mounted link route _ ih => exact .mounted link route ih
  | deactivated _ _ ih => exact .deactivated _ ih

theorem Evolves.linked (evolves : Evolves forest world) : world.Linked forest :=
  evolves.reachable.linked

theorem Evolves.inTurn (evolves : Evolves forest world) : world.InTurn := by
  induction evolves with
  | initial => exact inTurn_initial
  | evaluated mounts before h ih =>
    obtain ⟨owner, request, _, handled⟩ := eval_eq_some_iff.mp h
    exact ih.handle mounts before.linked handled
  | handled mounts before h ih => exact ih.handle mounts before.linked h
  | @mounted router _ _ _ link route before ih => exact ih.activate before.linked link router route
  | @deactivated router _ _ mounted before ih => exact ih.deactivate before.linked mounted router

end World

open World

/-- For every scope that belongs below another, its batches of activate and deactivate hooks
alternate strictly and begin with an activation, whatever evaluations, mounts and deactivations of
mounted scopes there have been and whichever hooks have failed. Its parent lists it exactly if its
last batch was an activation. -/
theorem lifecycle_hooks_alternate {world : World n ν} (evolves : Evolves forest world)
    {parent child : Fin n} (link : forest.upward child = some parent) :
    (∀ phase, (world.phases child).head? = some phase → phase = .activate) ∧
      (world.phases child).IsChain (· ≠ ·) ∧
      (child ∈ (world.node parent).children ↔
        (world.phases child).getLast? = some .activate) := by
  obtain ⟨first, chain, last_iff⟩ := evolves.inTurn child
  refine ⟨?_, chain, (evolves.linked.mem_children_iff_mounted link).trans last_iff.symm⟩
  intro phase head
  cases phase with
  | activate => rfl
  | deactivate => exact False.elim (first head)

/-- The items of the sample are mounted, stale, mounted for another area and taken off. -/
theorem lifecycle_hooks_alternate_in_areas :
    ∃ world last : World 2 Unit, world.Evolves areasForest ∧ last.Evolves areasForest ∧
      world.phases 1 = [.activate, .deactivate, .activate] ∧ 1 ∈ (world.node 0).children ∧
      last.phases 1 = [.activate, .deactivate, .activate, .deactivate] ∧
      1 ∉ (last.node 0).children := by
  have facts : ((World.initial.eval areas 2 0 "/a/view/1" .empty).bind fun first =>
      (first.2.eval areas 2 0 "/home" .empty).bind fun second =>
        (second.2.eval areas 2 0 "/b/view/2" .empty).map fun third =>
          ((third.2.node 1).parent, third.2.phases 1,
            (third.2.deactivate areas 1).1.phases 1)) =
      some (some 0, [.activate, .deactivate, .activate],
        [.activate, .deactivate, .activate, .deactivate]) := by
    decide +kernel
  obtain ⟨⟨_, first⟩, visited, facts⟩ := Option.bind_eq_some_iff.mp facts
  obtain ⟨⟨_, second⟩, left, facts⟩ := Option.bind_eq_some_iff.mp facts
  obtain ⟨⟨_, world⟩, back, facts⟩ := Option.map_eq_some_iff.mp facts
  simp only [Prod.mk.injEq] at facts
  obtain ⟨upper, phases, phases_last⟩ := facts
  have mounted : (world.node 1).parent ≠ none := by
    rw [upper]
    exact Option.some_ne_none 0
  have evolves : world.Evolves areasForest :=
    .evaluated areas_mountsWithin
      (.evaluated areas_mountsWithin (.evaluated areas_mountsWithin .initial visited) left) back
  have evolves_last : (world.deactivate areas 1).1.Evolves areasForest :=
    .deactivated mounted evolves
  obtain ⟨_, _, listed_iff⟩ := lifecycle_hooks_alternate evolves
    (show areasForest.upward 1 = some 0 from rfl)
  obtain ⟨_, _, listed_iff_last⟩ := lifecycle_hooks_alternate evolves_last
    (show areasForest.upward 1 = some 0 from rfl)
  refine ⟨world, _, evolves, evolves_last, phases, listed_iff.mpr ?_, phases_last, ?_⟩
  · rw [phases]
    rfl
  · rw [listed_iff_last, phases_last]
    decide

end ScopedRouting
