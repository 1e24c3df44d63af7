import ScopedRouting.Proofs.Scope.Declared
import ScopedRouting.Proofs.Scope.Orderly
import ScopedRouting.Proofs.Scope.Postorder
import ScopedRouting.Proofs.Scope.Repetition

/-!
# Children behind a match

Behind the handler of a match, the children that are mounted on other routes are deactivated with
everything below them, and the first child on the matched route is handed the rest of the path. If
scopes have fixed parents, what happens further down does not come back to this list. So each step
of an evaluation leaves the children that are mounted on its own route and no others.
-/
namespace ScopedRouting

variable {n : Nat} {ν : Type} {router : Router n ν} {forest : Forest n}

/-- A scope that is handed a request. If it succeeds, its step and the world that its handler has
left, or that it met if its handler was left out. -/
structure Visit (n : Nat) (ν : Type) where
  scope : Fin n
  passed : Option (Step n × World n ν)

def Visit.step? (visit : Visit n ν) : Option (Step n) :=
  visit.passed.map Prod.fst

namespace World

/-- The children of a scope that are mounted on one of its routes. -/
def onRoute (route : RouteId n) (world : World n ν) : List (Fin n) :=
  (world.node route.scope).children.filter fun child => (world.node child).mountedOn = some route

/-- The children of a scope that are not mounted on one of its routes. -/
def offRoute (route : RouteId n) (world : World n ν) : List (Fin n) :=
  (world.node route.scope).children.filter fun child => (world.node child).mountedOn ≠ some route

section Visits

variable (router : Router n ν)

/-- The visits of a scope that has found a match: its own, and those of the child that goes on. -/
def matchedVisits (handle : Fin n → Request → World n ν → Option (Evaluation n × World n ν))
    (visit : Fin n → Request → World n ν → List (Visit n ν)) (scope : Fin n) (found : Found n ν)
    (request : Request) (world : World n ν) : List (Visit n ν) :=
  match found.entry.route.readValues request.cursor with
  | (.error _, _) => [⟨scope, none⟩]
  | (.ok own, cursor) =>
    let step := found.step router request own cursor world
    match world.call router (navigateWith router handle) found step.data with
    | some (true, called) =>
      let plan := called.plan found.id
      ⟨scope, some (step, called)⟩ :: match plan.continueWith with
        | some child => visit child (request.behind step.data cursor)
          (called.deactivateAll router plan.deactivate)
        | none => []
    | _ => [⟨scope, none⟩]

/-- The scopes that are handed a request one after the other, from the top down. -/
def visits : (fuel : Nat) → Fin n → Request → World n ν → List (Visit n ν)
  | 0, _, _, _ => []
  | fuel + 1, scope, request, world =>
    match world.search router request.cursor scope with
    | some (some found) =>
      world.matchedVisits router (handle router fuel) (visits fuel) scope found request
    | _ => [⟨scope, none⟩]

/-- The scopes that are handed a request when a URL is evaluated on a scope. -/
def evalVisits (fuel : Nat) (scope : Fin n) (url : String) (defaults : Values)
    (world : World n ν) : List (Visit n ν) :=
  match world.locate router scope url defaults with
  | some (owner, request) => world.visits router fuel owner request
  | none => []

end Visits

variable {world after : World n ν} {scope : Fin n} {request : Request}
  {evaluation : Evaluation n}

theorem plan_eq_onRoute (route : RouteId n) (world : World n ν) :
    world.plan route = ⟨(world.onRoute route).head?, world.offRoute route⟩ :=
  plan_eq_filter route world

theorem upward_of_mem_onRoute {route : RouteId n} {child : Fin n} (linked : world.Linked forest)
    (member : child ∈ world.onRoute route) : forest.upward child = some route.scope :=
  linked.upward_of_mem (List.mem_of_mem_filter member)

theorem upward_of_mem_offRoute {route : RouteId n} {child : Fin n} (linked : world.Linked forest)
    (member : child ∈ world.offRoute route) : forest.upward child = some route.scope :=
  linked.upward_of_mem (List.mem_of_mem_filter member)

theorem nodup_offRoute (linked : world.Linked forest) (route : RouteId n) :
    (world.offRoute route).Nodup :=
  (linked.nodup route.scope).filter _

/-- What is below a stale child is not below one that stays. -/
theorem not_below_onRoute {route : RouteId n} {stale child : Fin n} (linked : world.Linked forest)
    (gone : stale ∈ world.offRoute route) (path : Below forest.upward stale scope)
    (stays : child ∈ world.onRoute route) : ¬ Below forest.upward child scope := by
  intro other
  have same := Forest.sibling_unique (upward_of_mem_offRoute linked gone)
    (upward_of_mem_onRoute linked stays) path other
  subst same
  have here := (List.mem_filter.mp stays).2
  have elsewhere := (List.mem_filter.mp gone).2
  simp only [decide_eq_true_eq] at here elsewhere
  exact elsewhere here

/-- Siblings that are deactivated one after the other are each deactivated with everything below
them, as in a list of one. -/
theorem Linked.deactivateAll_inOrder (linked : world.Linked forest) (router : Router n ν)
    {parent : Fin n} {stale : List (Fin n)} (nodup : stale.Nodup)
    (links : ∀ child ∈ stale, forest.upward child = some parent) :
    ∃ order, world.InOrder stale order ∧
      (∀ scope ∈ order, (world.deactivateAll router stale).node scope = {}) ∧
      (world.deactivateAll router stale).trace =
        world.trace ++ order.flatMap (router.batch .deactivate) := by
  induction stale generalizing world with
  | nil => exact ⟨[], .nil, by simp, by simp [deactivateAll]⟩
  | cons child rest ih =>
    obtain ⟨link, rest_links⟩ := List.forall_mem_cons.mp links
    obtain ⟨fresh, rest_nodup⟩ := List.nodup_cons.mp nodup
    obtain ⟨kept, frame⟩ := deactivate_spec router linked child
    obtain ⟨lower, below, retired, _⟩ := linked.deactivate_inOrder router child
    obtain ⟨others, later, gone, trace⟩ := ih kept rest_nodup rest_links
    have apart : ∀ {top scope}, top ∈ rest → Below forest.upward top scope →
        ¬ Below forest.upward child scope := by
      intro top scope member path shared
      have same := Forest.sibling_unique (rest_links top member) link path shared
      exact fresh (same ▸ member)
    -- The rest is in order in the world behind the first sibling, which has left their lists alone.
    refine ⟨lower ++ others, below.append (later.congr ?_), ?_, ?_⟩
    · intro scope member
      obtain ⟨top, listed, path⟩ := later.exists_below kept member
      rw [frame scope (apart listed path), Node.without_of_not_mem]
      intro inside
      have same := Option.some.inj ((linked.upward_of_mem inside).symm.trans link)
      subst same
      exact Forest.not_below_parent (rest_links top listed) path
    · intro scope member
      by_cases again : scope ∈ others
      · exact gone scope again
      · have first := (List.mem_append.mp member).resolve_right again
        obtain ⟨top, alone, path⟩ := below.exists_below linked first
        rw [List.mem_singleton.mp alone] at path
        have node := (deactivateAll_spec router kept rest_links).2 scope fun top listed shared =>
          apart listed shared path
        refine node.trans ?_
        rw [retired.node, if_pos first]
        rfl
    · have both : (world.deactivateAll router (child :: rest)).trace =
          ((world.deactivate router child).1.deactivateAll router rest).trace := rfl
      rw [both, trace, retired.trace, trace_detach, List.flatMap_append, List.append_assoc]

/-- The trace only grows. -/
theorem TornDown.exists_trace {scopes : List (Fin n)} {failed : List FailedBatch}
    (torn : TornDown router scopes world after failed) :
    ∃ events, after.trace = world.trace ++ events := by
  induction torn with
  | nil world => exact ⟨[], (List.append_nil _).symm⟩
  | @cons scope _ world inner _ _ _ _ _ ih_below ih_later =>
    obtain ⟨lower, below⟩ := ih_below
    obtain ⟨others, later⟩ := ih_later
    exact ⟨lower ++ router.batch .deactivate scope ++ others, by simp [later, below]⟩

theorem Passes.exists_trace {routers : Set (Router n ν)} {moments : List (Moment n ν)}
    (passes : world.Passes routers moments after) :
    ∃ events, after.trace = world.trace ++ events := by
  induction passes with
  | nil world => exact ⟨[], (List.append_nil _).symm⟩
  | @cons router world next after change _ _ first _ ih =>
    obtain ⟨others, later⟩ := ih
    have here : ∃ events, next.trace = world.trace ++ events := by
      cases first with
      | noted _ what => exact ⟨[.noted what], rfl⟩
      | mounted _ parent child route =>
        by_cases same : child = parent
        · exact ⟨[], by simp [same]⟩
        · exact ⟨_, trace_activate same route⟩
      | deactivated _ scope =>
        obtain ⟨events, trace⟩ := (tornDown_deactivate router scope world).exists_trace
        exact ⟨events, by simp [trace]⟩
      | called _ _ _ => exact ⟨_, rfl⟩
      | skipped _ _ _ => exact ⟨[], (List.append_nil _).symm⟩
      | committed _ step => exact ⟨[], (List.append_nil _).symm⟩
    obtain ⟨events, trace⟩ := here
    exact ⟨events ++ others, by rw [later, trace, List.append_assoc]⟩

/-- Whether a request leads to a match, and to a step if the handler of the match, which leaves
another world behind, succeeds. -/
structure Takes (router : Router n ν) (less : Nat) (scope : Fin n) (request : Request)
    (world : World n ν) (found : Found n ν) (own : Values) (cursor : Cursor) (step : Step n)
    (succeeded : Bool) (called : World n ν) : Prop where
  search : world.search router request.cursor scope = some (some found)
  read : found.entry.route.readValues request.cursor = (.ok own, cursor)
  step_eq : step = found.step router request own cursor world
  call : world.call router (navigateWith router (handle router less)) found step.data =
    some (succeeded, called)

/-- What can become of a request that a scope is handed, with the scopes that are visited, the steps
and the world in the end. -/
inductive Visited (router : Router n ν) (less : Nat) (scope : Fin n) (request : Request)
    (world : World n ν) : List (Visit n ν) → List (Step n) → World n ν → Prop
  | untouched : Visited router less scope request world [⟨scope, none⟩] [] world
  | failed {found : Found n ν} {own : Values} {cursor : Cursor} {step : Step n}
      {called : World n ν}
      (takes : world.Takes router less scope request found own cursor step false called) :
      Visited router less scope request world [⟨scope, none⟩] [] called
  | ended {found : Found n ν} {own : Values} {cursor : Cursor} {step : Step n}
      {called : World n ν}
      (takes : world.Takes router less scope request found own cursor step true called)
      (none_stays : called.onRoute step.route = []) :
      Visited router less scope request world [⟨scope, some (step, called)⟩] [step]
        ((called.deactivateAll router (called.offRoute step.route)).commit step.route.scope
          step.data step.root)
  | wentOn {found : Found n ν} {own : Values} {cursor : Cursor} {step : Step n}
      {called inner : World n ν} {child : Fin n} {others : List (Fin n)}
      {evaluation : Evaluation n}
      (takes : world.Takes router less scope request found own cursor step true called)
      (first_stays : called.onRoute step.route = child :: others)
      (handled : (called.deactivateAll router (called.offRoute step.route)).handle router less child
        (request.behind step.data cursor) = some (evaluation, inner)) :
      Visited router less scope request world
        (⟨scope, some (step, called)⟩ ::
          (called.deactivateAll router (called.offRoute step.route)).visits router less child
            (request.behind step.data cursor))
        (step :: evaluation.steps) (inner.commit step.route.scope step.data step.root)

theorem visited_of_handle {less : Nat}
    (h : world.handle router (less + 1) scope request = some (evaluation, after)) :
    Visited router less scope request world (world.visits router (less + 1) scope request)
      evaluation.steps after := by
  obtain ⟨_, same, ⟨search, rfl, rfl⟩ | ⟨found, search, handled⟩⟩ := handle_cases h
  · simp only [visits, search]
    exact .untouched
  · cases same
    simp only [visits, search]
    cases handled with
    | unreadable read =>
      simp only [matchedVisits, read]
      exact .untouched
    | @failed own cursor called read call =>
      have data : (found.step router request own cursor world).data =
        found.data router request own cursor := rfl
      simp only [matchedVisits, read, data, call]
      exact .failed ⟨search, read, rfl, call⟩
    | @passed own cursor called cascaded below read call cascade =>
      have data : (found.step router request own cursor world).data =
        found.data router request own cursor := rfl
      have takes : world.Takes router less scope request found own cursor
        (found.step router request own cursor world) true called := ⟨search, read, rfl, call⟩
      simp only [matchedVisits, read, data, call]
      rcases cascade_cases cascade with ⟨ends, rfl, rfl⟩ | ⟨child, evaluation, goes, handled, rfl⟩
      · simp only [ends]
        rw [plan_eq_onRoute] at ends ⊢
        exact .ended takes (List.head?_eq_none_iff.mp ends)
      · simp only [goes]
        rw [plan_eq_onRoute] at goes handled ⊢
        obtain ⟨others, first_stays⟩ := List.head?_eq_some_iff.mp goes
        exact .wentOn takes first_stays handled

/-- Whether visits start at a scope and all others are strictly below it. -/
def StartsAt (forest : Forest n) (scope : Fin n) (visits : List (Visit n ν)) : Prop :=
  ∃ passed rest, visits = ⟨scope, passed⟩ :: rest ∧
    ∀ visit ∈ rest, Below forest.upward scope visit.scope ∧ visit.scope ≠ scope

namespace StartsAt

variable {visits : List (Visit n ν)} {parent child : Fin n} {siblings : List (Fin n)}

theorem single (scope : Fin n) (passed : Option (Step n × World n ν)) :
    StartsAt forest scope [⟨scope, passed⟩] :=
  ⟨passed, [], rfl, by simp⟩

/-- Visits that start below a scope may follow a visit of this scope. -/
theorem cons (starts : StartsAt forest child visits) (link : forest.upward child = some parent)
    (path : Below forest.upward scope parent) (passed : Option (Step n × World n ν)) :
    StartsAt forest scope (⟨scope, passed⟩ :: visits) := by
  obtain ⟨_, rest, rfl, lower⟩ := starts
  refine ⟨passed, _, rfl, ?_⟩
  have strictly : ∀ {other}, Below forest.upward child other →
      Below forest.upward scope other ∧ other ≠ scope := by
    rintro other down
    refine ⟨path.trans (down.of_link link), ?_⟩
    rintro rfl
    exact Forest.not_below_parent link (down.trans path)
  exact List.forall_mem_cons.mpr ⟨strictly .self, fun visit member =>
    strictly (lower visit member).1⟩

/-- Among siblings, only the one where the visits start is visited. -/
theorem filter_siblings (starts : StartsAt forest child visits) (member : child ∈ siblings)
    (links : ∀ sibling ∈ siblings, forest.upward sibling = some parent) :
    (visits.map Visit.scope).filter (· ∈ siblings) = [child] := by
  obtain ⟨_, rest, rfl, lower⟩ := starts
  have none_later : (rest.map Visit.scope).filter (· ∈ siblings) = [] := by
    simp only [List.filter_eq_nil_iff, List.forall_mem_map, decide_eq_true_eq]
    intro visit later listed
    obtain ⟨down, different⟩ := lower visit later
    exact different (Forest.sibling_unique (links _ listed) (links child member) .self down)
  simp [member, none_later]

end StartsAt

/-- A scope above a parent is not among the children of this parent. -/
theorem filter_children_cons {parent : Fin n} {siblings : List (Fin n)}
    (above : Below forest.upward scope parent)
    (links : ∀ sibling ∈ siblings, forest.upward sibling = some parent)
    (passed : Option (Step n × World n ν)) (visits : List (Visit n ν)) :
    ((⟨scope, passed⟩ :: visits).map Visit.scope).filter (· ∈ siblings) =
      (visits.map Visit.scope).filter (· ∈ siblings) := by
  have unlisted : scope ∉ siblings := fun listed =>
    Forest.not_below_parent (links scope listed) above
  simp [unlisted]

/-- What a step that has passed leaves of the children of its scope. -/
structure Settled (router : Router n ν) (visits : List (Visit n ν)) (after : World n ν)
    (step : Step n) (called : World n ν) : Prop where
  /-- Those that are mounted on the matched route stay, in their order. -/
  kept : (after.node step.route.scope).children = called.onRoute step.route
  /-- The first of these is visited, once, and no other child is. -/
  visited : (visits.map Visit.scope).filter (· ∈ (called.node step.route.scope).children) =
    (called.onRoute step.route).head?.toList
  /-- The others are deactivated with everything below them, right behind the handler. -/
  retired : ∃ order, called.InOrder (called.offRoute step.route) order ∧ order.Nodup ∧
    (∀ scope, scope ∈ order ↔
      ∃ child ∈ called.offRoute step.route, Below called.parents child scope) ∧
    (∀ scope ∈ order, after.node scope = {}) ∧
    ∃ later, after.trace = called.trace ++ order.flatMap (router.batch .deactivate) ++ later

namespace Settled

variable {visits : List (Visit n ν)} {inner called : World n ν} {step : Step n}

/-- The stale children are gone at once. What follows only happens below a child that stays. -/
theorem of_clear (linked : called.Linked forest)
    (frame : ∀ other, (∀ child ∈ called.onRoute step.route, ¬ Below forest.upward child other) →
      inner.node other =
        (called.deactivateAll router (called.offRoute step.route)).node other)
    (grows : ∃ later, inner.trace =
      (called.deactivateAll router (called.offRoute step.route)).trace ++ later)
    (visited : (visits.map Visit.scope).filter (· ∈ (called.node step.route.scope).children) =
      (called.onRoute step.route).head?.toList) :
    Settled router visits (inner.commit step.route.scope step.data step.root) step called := by
  have nodup := nodup_offRoute linked step.route
  have links : ∀ child ∈ called.offRoute step.route,
      forest.upward child = some step.route.scope := fun _ => upward_of_mem_offRoute linked
  obtain ⟨order, inOrder, gone, trace⟩ := linked.deactivateAll_inOrder router nodup links
  obtain ⟨later, grows⟩ := grows
  refine ⟨?_, visited, order, inOrder, inOrder.nodup linked (.of_siblings nodup links), ?_, ?_,
    later, ?_⟩
  · have clear := children_clear router step.route linked
    rw [plan_eq_onRoute] at clear
    rw [children_commit, frame, clear]
    · rfl
    · exact fun child stays => Forest.not_below_parent (upward_of_mem_onRoute linked stays)
  -- The forest may have more links than the world, so the order is compared with the exact one.
  · intro scope
    obtain ⟨exact_forest, upward, exact_linked⟩ := linked.isTree.exact
    exact inOrder.mem_iff exact_linked upward
  · intro scope member
    obtain ⟨stale, listed, path⟩ := inOrder.exists_below linked member
    have different : scope ≠ step.route.scope := by
      rintro rfl
      exact Forest.not_below_parent (links stale listed) path
    rw [node_commit_other different, frame scope, gone scope member]
    exact fun child => not_below_onRoute linked listed path
  · rw [trace_commit, grows, trace]

/-- A commit further up changes nothing. -/
theorem lift (settled : Settled router visits inner step called) (linked : called.Linked forest)
    {top child : Fin n} (link : forest.upward child = some top)
    (path : Below forest.upward child step.route.scope) (above : Below forest.upward scope top)
    (passed : Option (Step n × World n ν)) (data : RouteData) (root : String) :
    Settled router (⟨scope, passed⟩ :: visits) (inner.commit top data root) step called := by
  obtain ⟨kept, visited, order, inOrder, nodup, mem_iff, gone, later, trace⟩ := settled
  have lower : ∀ {other}, Below forest.upward child other → other ≠ top := by
    rintro other down rfl
    exact Forest.not_below_parent link down
  refine ⟨?_, ?_, order, inOrder, nodup, mem_iff, ?_, later, trace⟩
  · simpa [lower path] using kept
  · rw [filter_children_cons (above.trans (path.of_link link)) fun _ => linked.upward_of_mem]
    exact visited
  · intro other member
    obtain ⟨stale, listed, down⟩ := inOrder.exists_below linked member
    have below := path.trans (down.of_link (upward_of_mem_offRoute linked listed))
    simpa [lower below] using gone other member

end Settled

/-- Where a request goes, step by step, and what is settled on the way. -/
structure Descends (router : Router n ν) (forest : Forest n) (scope : Fin n)
    (visits : List (Visit n ν)) (steps : List (Step n)) (after : World n ν) : Prop where
  starts : StartsAt forest scope visits
  steps_eq : visits.filterMap Visit.step? = steps
  settled : ∀ visit ∈ visits, ∀ step called, visit.passed = some (step, called) →
    called.Linked forest ∧ Below forest.upward scope step.route.scope ∧
      Settled router visits after step called

theorem descends_of_handle (mounts : router.MountsWithin forest) {fuel : Nat}
    (linked : world.Linked forest)
    (h : world.handle router fuel scope request = some (evaluation, after)) :
    Descends router forest scope (world.visits router fuel scope request) evaluation.steps
      after := by
  induction fuel generalizing scope request world evaluation after with
  | zero => cases h
  | succ fuel ih =>
    have called_spec : ∀ {found : Found n ν} {own : Values} {cursor : Cursor} {step : Step n}
        {called : World n ν}, world.Takes router fuel scope request found own cursor step true
          called →
          called.Linked forest ∧ Below forest.upward scope step.route.scope := by
      intro found own cursor step called takes
      refine ⟨(linked_of_call mounts (inTable_of_search takes.search) linked takes.call).1, ?_⟩
      rw [takes.step_eq]
      exact below_of_searchWith linked takes.search
    have visited := visited_of_handle h
    generalize world.visits router (fuel + 1) scope request = visits at visited ⊢
    generalize evaluation.steps = steps at visited ⊢
    cases visited with
    | untouched => exact ⟨.single scope none, rfl, by simp⟩
    | failed _ => exact ⟨.single scope none, rfl, by simp⟩
    | ended takes none_stays =>
      obtain ⟨called_linked, path⟩ := called_spec takes
      refine ⟨.single scope _, rfl, ?_⟩
      simp only [List.mem_singleton, forall_eq, Option.some.injEq, Prod.mk.injEq]
      rintro _ _ ⟨rfl, rfl⟩
      refine ⟨called_linked, path, .of_clear called_linked (fun _ _ => rfl)
        ⟨[], (List.append_nil _).symm⟩ ?_⟩
      rw [filter_children_cons path fun _ => called_linked.upward_of_mem, none_stays]
      rfl
    | @wentOn found own cursor step called inner child others evaluation takes first_stays
        handled =>
      obtain ⟨called_linked, path⟩ := called_spec takes
      have first : child ∈ called.onRoute step.route := by simp [first_stays]
      have link := upward_of_mem_onRoute called_linked first
      have cleared : (called.deactivateAll router (called.offRoute step.route)).Linked forest :=
        (deactivateAll_spec router called_linked fun _ => upward_of_mem_offRoute called_linked).1
      obtain ⟨starts, steps_eq, settled⟩ := ih cleared handled
      refine ⟨starts.cons link path _, congrArg (List.cons step) steps_eq, ?_⟩
      refine List.forall_mem_cons.mpr ⟨?_, ?_⟩
      · rintro _ _ ⟨⟩
        refine ⟨called_linked, path, .of_clear called_linked ?_
          (passes_of_handle handled).exists_trace ?_⟩
        · intro other apart
          exact (handle_contained mounts cleared handled).outside other (apart child first)
        · rw [filter_children_cons path fun _ => called_linked.upward_of_mem,
            starts.filter_siblings (List.mem_of_mem_filter first)
              fun _ => called_linked.upward_of_mem, first_stays]
          rfl
      -- What is settled further down is not touched by the commit of this step.
      · intro visit member lower world passed
        obtain ⟨lower_linked, down, lower_settled⟩ := settled visit member lower world passed
        exact ⟨lower_linked, path.trans (down.of_link link),
          lower_settled.lift lower_linked link down path _ _ _⟩

end World

open World

/-- Evaluations leave no stale children, whatever handlers and hooks report. For each of its steps,
the children of the scope in the end are those that were mounted on the matched route right behind
the handler, in their order. The first of them is visited and no other child is, and the children
that were mounted elsewhere have been deactivated with everything below them. -/
theorem stale_children_do_not_survive {world : World n ν} (mounts : router.MountsWithin forest)
    (reachable : world.Reachable forest) {fuel : Nat} (enough : n ≤ fuel) (scope : Fin n)
    (url : String) (defaults : Values) :
    ∃ evaluation after, world.eval router fuel scope url defaults = some (evaluation, after) ∧
      (world.evalVisits router fuel scope url defaults).filterMap Visit.step? = evaluation.steps ∧
      ∀ visit ∈ world.evalVisits router fuel scope url defaults, ∀ step called,
        visit.passed = some (step, called) →
          Settled router (world.evalVisits router fuel scope url defaults) after step called := by
  have linked := reachable.linked
  obtain ⟨evaluation, after, h⟩ := exists_eval mounts enough linked scope url defaults
  obtain ⟨owner, request, located, handled⟩ := eval_eq_some_iff.mp h
  obtain ⟨_, steps_eq, settled⟩ := descends_of_handle mounts linked handled
  have visits : world.evalVisits router fuel scope url defaults =
      world.visits router fuel owner request := by
    unfold evalVisits
    rw [located]
  rw [visits]
  exact ⟨evaluation, after, h, steps_eq, fun visit member step called passed =>
    (settled visit member step called passed).2.2⟩

/-- A sample: a page that shows a list or the details of an item, each in a scope of its own. -/
def shop : Router 3 Unit :=
  .plain "app:/" fun scope =>
    if scope = 0 then [("/list/*", fun _ => .mount 1 fun _ => .finish true),
      ("/detail/*", fun _ => .mount 2 fun _ => .finish true)]
    else [("~/:item", fun _ => .finish true)]

/-- The list and the details are below the page. -/
def shopForest : Forest 3 :=
  .ofLt (fun scope => if scope = 0 then none else some 0) (by decide)

theorem shop_mountsWithin : shop.MountsWithin shopForest := by
  apply Router.mountsWithin_plain
  intro scope declaration declared context
  split at declared
  · rename_i page
    subst page
    rcases List.mem_cons.mp declared with rfl | declared
    · exact ⟨fun _ => rfl, fun _ => trivial⟩
    · cases List.mem_singleton.mp declared
      exact ⟨fun _ => rfl, fun _ => trivial⟩
  · cases List.mem_singleton.mp declared
    trivial

/-- The details replace the list, which is deactivated. -/
theorem stale_children_do_not_survive_in_shop :
    ∃ (world after : World 3 Unit) (evaluation : Evaluation 3), world.Reachable shopForest ∧
      world.eval shop 3 0 "/detail/abc" .empty = some (evaluation, after) ∧
      evaluation.steps.map Step.route = [⟨0, 1⟩, ⟨2, 0⟩] ∧
      (world.node 0).children = [1] ∧ (after.node 0).children = [2] ∧ after.node 1 = {} := by
  have facts : (World.initial.eval shop 3 0 "/list/2" .empty).bind (fun first =>
      let visits := first.2.evalVisits shop 3 0 "/detail/abc" .empty
      (visits.head?.bind Visit.passed).map fun passed =>
        ((visits.filterMap Visit.step?).map Step.route, passed.1.route,
          [(first.2.node 0).children, passed.2.onRoute passed.1.route,
            passed.2.offRoute passed.1.route])) =
      some ([⟨0, 1⟩, ⟨2, 0⟩], ⟨0, 1⟩, [[1], [2], [1]]) := by
    decide +kernel
  obtain ⟨⟨_, world⟩, listed, facts⟩ := Option.bind_eq_some_iff.mp facts
  have reachable : world.Reachable shopForest := .evaluated shop_mountsWithin .initial listed
  obtain ⟨evaluation, after, h, steps_eq, settled⟩ :=
    stale_children_do_not_survive shop_mountsWithin reachable (Nat.le_refl 3) 0 "/detail/abc" .empty
  generalize world.evalVisits shop 3 0 "/detail/abc" .empty = visits at facts steps_eq settled
  obtain ⟨⟨step, called⟩, passed, facts⟩ := Option.map_eq_some_iff.mp facts
  obtain ⟨visit, visited, passed⟩ := Option.bind_eq_some_iff.mp passed
  simp only [Prod.mk.injEq, List.cons.injEq, and_true] at facts
  obtain ⟨routes, route, children, stays, gone⟩ := facts
  obtain ⟨kept, _, order, inOrder, _, _, retired, _⟩ :=
    settled visit (List.mem_of_head? visited) step called passed
  rw [stays, route] at kept
  rw [gone] at inOrder
  refine ⟨world, after, evaluation, reachable, h, ?_, children, kept, retired 1 ?_⟩
  · rw [← steps_eq, routes]
  · exact inOrder.roots_sublist.subset (List.mem_singleton_self 1)

end ScopedRouting
