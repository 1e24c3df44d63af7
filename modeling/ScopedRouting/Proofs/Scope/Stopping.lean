import ScopedRouting.Proofs.Scope.Aftermath
import ScopedRouting.Proofs.Scope.Descent

/-!
# Where requests stop

A request goes down until a scope has no child to hand it on to, or takes no step for it. What such
a scope does for the request, and then the commits of the steps above, are all that still follows.
So the scope keeps the state that it was handed the request with, unless it is deactivated or a step
is committed for it from then on. Handlers may do anything.
-/
namespace ScopedRouting

variable {n : Nat} {ν : Type} {router : Router n ν}

/-- A request and the scope that it is handed to: the world at this time, and what happens before,
for the request and behind. -/
structure Stop (n : Nat) (ν : Type) where
  scope : Fin n
  request : Request
  received : World n ν
  front : List (Moment n ν)
  own : List (Moment n ν)
  behind : List (Moment n ν)

/-- Whether a request stops there on the course of an evaluation with these steps: the scope takes
no step for it, and nothing but the commits of the steps follows. -/
structure Stop.Ends (router : Router n ν) (course : List (Moment n ν)) (steps : List (Step n))
    (world after : World n ν) (stop : Stop n ν) : Prop where
  split : course = stop.front ++ (stop.own ++ stop.behind)
  before : world.Passes {router} stop.front stop.received
  declined : ∃ less evaluation inner,
    stop.received.handle router less stop.scope stop.request = some (evaluation, inner) ∧
      evaluation.steps = [] ∧
      stop.own = stop.received.course router less stop.scope stop.request
  passes : stop.received.Passes {router} (stop.own ++ stop.behind) after
  commits : stop.behind.map Moment.change = steps.reverse.map .committed

/-- Whether a stop is that of a request which a step hands on to the scope. -/
structure Stop.IsBelow (router : Router n ν) (step : Step n) (called : World n ν) (scope : Fin n)
    (stop : Stop n ν) : Prop where
  scope_eq : stop.scope = scope
  received_eq : stop.received = called.deactivateAll router (called.offRoute step.route)
  root : stop.request.root = step.place
  relative : stop.request.cursor.relative = true

/-- What a scope has in the end that takes no step for a request. It keeps the state that it was
handed the request with, unless it is deactivated or a step is committed for it from then on. If
none of its routes matches, it does nothing, and only a step of its own further up is committed for
it. -/
structure Stop.Keeps (router : Router n ν) (steps : List (Step n)) (after : World n ν)
    (stop : Stop n ν) : Prop where
  state : (∀ moment ∈ stop.own, ¬ moment.Deactivates stop.scope) →
    (after.node stop.scope).state = (lastCommitted stop.scope (stop.own ++ stop.behind)).elim
      (stop.received.node stop.scope).state fun last => ⟨some last.data, last.root⟩
  unmatched : (router.get stop.scope).table.find? stop.request.cursor = none →
    stop.own = [] ∧
      (after.node stop.scope).state = (steps.find? (·.route.scope = stop.scope)).elim
        (stop.received.node stop.scope).state fun last => ⟨some last.data, last.root⟩

/-- The same stop with a step over it: there is more in front and more behind. -/
def Stop.below (lead : List (Moment n ν)) (last : Moment n ν) (stop : Stop n ν) : Stop n ν :=
  { stop with front := lead ++ stop.front, behind := stop.behind ++ [last] }

namespace Stop.Ends

variable {course lead : List (Moment n ν)} {steps : List (Step n)} {world after : World n ν}
  {stop : Stop n ν}

/-- A request that a scope takes no step for stops right there. -/
theorem of_declined {less : Nat} {scope : Fin n} {request : Request} {evaluation : Evaluation n}
    (handled : world.handle router less scope request = some (evaluation, after))
    (nothing : evaluation.steps = []) :
    Stop.Ends router (world.course router less scope request) evaluation.steps world after
      ⟨scope, request, world, [], world.course router less scope request, []⟩ where
  split := (List.append_nil _).symm
  before := .nil world
  declined := ⟨less, evaluation, after, handled, nothing, rfl⟩
  passes := by simpa only [List.append_nil] using World.passes_of_handle handled
  commits := by simp only [nothing, List.reverse_nil, List.map_nil]

/-- A step over the others comes with what is in front of them and with its own commit. -/
theorem cons (ends : stop.Ends router course steps world after) {start : World n ν}
    (above : start.Passes {router} lead world) (step : Step n) :
    (stop.below lead ⟨after, .committed step⟩).Ends router
      (lead ++ (course ++ [⟨after, .committed step⟩])) (step :: steps) start
      (after.commit step.route.scope step.data step.root) where
  split := by simp only [Stop.below, ends.split, List.append_assoc]
  before := above.append ends.before
  declined := ends.declined
  passes := by
    have last := World.Passes.single (Set.mem_singleton router) (.committed after step)
    simpa only [Stop.below, List.append_assoc] using ends.passes.append last
  commits := by simp only [Stop.below, List.map_append, ends.commits, List.reverse_cons,
    List.map_cons, List.map_nil]

theorem not_deactivates_behind (ends : stop.Ends router course steps world after) (scope : Fin n) :
    ∀ moment ∈ stop.behind, ¬ moment.Deactivates scope := by
  rintro moment member ⟨top, deactivated, _⟩
  have listed := List.mem_map_of_mem (f := Moment.change) member
  rw [ends.commits, deactivated] at listed
  obtain ⟨step, _, same⟩ := List.mem_map.mp listed
  cases same

/-- Without a match, a scope does nothing for the request. -/
theorem own_eq_nil (ends : stop.Ends router course steps world after)
    (relative : stop.request.cursor.relative = true)
    (unmatched : (router.get stop.scope).table.find? stop.request.cursor = none) :
    stop.own = [] := by
  obtain ⟨less, _, _, handled, _, own⟩ := ends.declined
  cases less with
  | zero => cases handled
  | succ less => simp only [own, World.course, World.search_relative relative, unmatched,
      Option.map_none]

theorem keeps (ends : stop.Ends router course steps world after)
    (relative : stop.request.cursor.relative = true) : stop.Keeps router steps after where
  state left := ends.passes.state_of_last
    (List.forall_mem_append.mpr ⟨left, ends.not_deactivates_behind stop.scope⟩)
  unmatched nothing := by
    have idle := ends.own_eq_nil relative nothing
    have passes := ends.passes
    rw [idle, List.nil_append] at passes
    have changes : stop.behind.map Moment.change = [] ++ steps.reverse.map .committed :=
      ends.commits
    have state := passes.state_of_last (ends.not_deactivates_behind stop.scope)
    rw [World.lastCommitted_of_changes changes] at state
    exact ⟨idle, by simpa using state⟩

end Stop.Ends

namespace World

variable {world after called inner : World n ν} {scope child : Fin n} {request : Request}
  {found : Found n ν} {own : Values} {cursor : Cursor} {step : Step n} {others : List (Fin n)}
  {evaluation : Evaluation n} {less : Nat}

theorem Takes.root_and_scope {succeeded : Bool}
    (takes : world.Takes router less scope request found own cursor step succeeded called) :
    step.root = request.root ∧ (request.cursor.relative = true → step.route.scope = scope) := by
  rw [takes.step_eq]
  exact ⟨rfl, fun relative => scope_of_search relative takes.search⟩

/-- What is in front of the course below a step leads to the world in which the request is handed
on, and only the commit of the step follows. -/
theorem Takes.course_eq
    (takes : world.Takes router less scope request found own cursor step true called)
    (first_stays : called.onRoute step.route = child :: others)
    (handled : (called.deactivateAll router (called.offRoute step.route)).handle router less child
      (request.behind step.data cursor) = some (evaluation, inner)) :
    ∃ lead,
      world.Passes {router} lead (called.deactivateAll router (called.offRoute step.route)) ∧
      world.course router (less + 1) scope request =
        lead ++ ((called.deactivateAll router (called.offRoute step.route)).course router less child
          (request.behind step.data cursor) ++ [⟨inner, .committed step⟩]) := by
  have call := takes.call
  obtain rfl := takes.step_eq
  have follows : Follows router (handle router less) (course router less) := passes_of_handle
  have calls := follows.passes_of_call (found.step router request own cursor world) rfl rfl call
  have goes : called.plan found.id =
      ⟨some child, called.offRoute (found.step router request own cursor world).route⟩ := by
    rw [plan_eq_onRoute, show called.onRoute found.id = child :: others from first_stays]
    rfl
  have cascade : called.cascade router (handle router less) found.id
      (request.behind (found.step router request own cursor world).data cursor) =
        some (evaluation.steps, inner) := by
    simp only [World.cascade, goes, handled]
    rfl
  refine ⟨_, calls.append (passes_deactivateAll router (called.offRoute
    (found.step router request own cursor world).route) called), ?_⟩
  simp only [course, takes.search, matchedCourse, takes.read, call, cascadeCourse, goes, cascade,
    List.append_assoc]

/-- If the scope of a request takes no step for it, there are no steps at all. -/
theorem steps_eq_nil_of_stopped {fuel : Nat}
    (h : world.handle router fuel scope request = some (evaluation, after)) {first : Visit n ν}
    (head : first ∈ (world.visits router fuel scope request).head?)
    (stopped : first.passed = none) :
    first.scope = scope ∧ evaluation.steps = [] := by
  cases fuel with
  | zero => cases h
  | succ fuel =>
    have visited := visited_of_handle h
    generalize world.visits router (fuel + 1) scope request = visits at visited head
    generalize evaluation.steps = steps at visited ⊢
    cases visited with
    | untouched =>
      cases head
      exact ⟨rfl, rfl⟩
    | failed _ =>
      cases head
      exact ⟨rfl, rfl⟩
    | ended _ _ =>
      cases head
      cases stopped
    | wentOn _ _ _ =>
      cases head
      cases stopped

/-- Whatever handlers do, a request that a scope takes no step for stops there. -/
theorem stops_of_handle {fuel : Nat}
    (h : world.handle router fuel scope request = some (evaluation, after)) :
    (world.visits router fuel scope request).IsChain fun upper lower => ∀ step called,
      upper.passed = some (step, called) → lower.passed = none →
        ∃ stop : Stop n ν, stop.IsBelow router step called lower.scope ∧
          stop.Ends router (world.course router fuel scope request) evaluation.steps world
            after := by
  induction fuel generalizing scope request world evaluation after with
  | zero => cases h
  | succ fuel ih =>
    have visited := visited_of_handle h
    generalize world.visits router (fuel + 1) scope request = visits at visited ⊢
    generalize evaluation.steps = steps at visited ⊢
    cases visited with
    | untouched => exact List.isChain_singleton _
    | failed _ => exact List.isChain_singleton _
    | ended _ _ => exact List.isChain_singleton _
    | @wentOn found own cursor step called inner child others evaluation takes first_stays
        handled =>
      obtain ⟨lead, leads, course_eq⟩ := takes.course_eq first_stays handled
      rw [course_eq]
      refine List.isChain_cons.mpr ⟨?_, (ih handled).imp ?_⟩
      · rintro lower head _ _ ⟨rfl⟩ stopped
        obtain ⟨here, nothing⟩ := steps_eq_nil_of_stopped handled head stopped
        refine ⟨_, ⟨here.symm, rfl, ?_, rfl⟩,
          (Stop.Ends.of_declined handled nothing).cons leads step⟩
        rw [Step.place, takes.root_and_scope.1]
        rfl
      · intro upper lower stops last left passed stopped
        obtain ⟨stop, ⟨scope_eq, received_eq, root, relative⟩, ends⟩ :=
          stops last left passed stopped
        exact ⟨stop.below lead _, ⟨scope_eq, received_eq, root, relative⟩, ends.cons leads step⟩

end World

end ScopedRouting
