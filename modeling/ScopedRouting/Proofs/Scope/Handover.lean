import ScopedRouting.Proofs.Scope.Stopping

/-!
# Where the next scope starts

The first child on the matched route is handed the path behind a step. Its root path is only written
when a step of its own succeeds. Then it is the root path of the scope above with the path that was
taken there, and relative URLs and templates of the child start at this place. If the child finds no
match or its handler fails, it keeps the root path that it had, unless the child is deactivated or
commits a step for something else behind that.
-/
namespace ScopedRouting

variable {n : Nat} {ν : Type} {router : Router n ν}

/-- Where a scope with a match is: its root path and the path that it took behind it. -/
def ScopeState.place? (state : ScopeState) : Option String :=
  state.current.map fun data => Path.below state.rootPath data.path

/-- Whether a visit is followed by another: that of the first child on the matched route, whose
step, if it takes one, starts where the one before it ends. -/
def Visit.HandsTo (upper lower : Visit n ν) : Prop :=
  ∃ step called, upper.passed = some (step, called) ∧
    (called.onRoute step.route).head? = some lower.scope ∧
    ∀ own last, lower.passed = some (own, last) →
      own.route.scope = lower.scope ∧ own.root = step.place

/-- Whether a scope that is handed a request but takes no step keeps the state that it had. -/
def Visit.Spares (after : World n ν) (upper lower : Visit n ν) : Prop :=
  ∀ step called, upper.passed = some (step, called) → lower.passed = none →
    (after.node lower.scope).state = (called.node lower.scope).state

namespace World

variable {world after : World n ν} {scope : Fin n} {request : Request}
  {evaluation : Evaluation n}

/-- Whether all that is relative to a scope starts at a place. -/
structure RootedAt (router : Router n ν) (world : World n ν) (scope : Fin n) (place : String) :
    Prop where
  root : (world.node scope).state.rootPath = place
  /-- Relative URLs are evaluated behind the tokens of the place. -/
  locate : ∀ url defaults, ((router.get scope).config.pathOf url).relative = true →
    ∃ request, world.locate router scope url defaults = some (scope, request) ∧
      request.root = place ∧
      let root := (Path.parse (router.get scope).config.pathOptions place).segments
      request.cursor =
        .resumed (root ++ ((router.get scope).config.pathOf url).segments) root.length
  /-- URLs of relative templates continue the place. -/
  href : ∀ template values entry index path,
    (router.get scope).table.byTemplate? template = some (entry, index) →
    entry.route.relative = true → (entry.route.resolve values false).1 = .ok path →
      world.hrefFor router scope template values = .ok (Path.below place path)

theorem RootedAt.of_rootPath (router : Router n ν) {place : String}
    (root : (world.node scope).state.rootPath = place) : RootedAt router world scope place := by
  refine ⟨root, ?_, ?_⟩
  · intro url defaults relative
    rw [locate_of_relative relative, root]
    exact ⟨_, rfl, rfl, rfl⟩
  · intro template values entry index path listed relative resolved
    simp only [hrefFor, listed, resolved, relative, if_true, root]

/-- Whether visits start at the scope of a request, each is handed the request by the one before,
and the last has no child to hand it on to. -/
structure HandedDown (scope : Fin n) (request : Request) (visits : List (Visit n ν)) : Prop where
  first : ∃ passed rest, visits = ⟨scope, passed⟩ :: rest ∧
    ∀ step called, passed = some (step, called) → step.root = request.root ∧
      (request.cursor.relative = true → step.route.scope = scope)
  chain : visits.IsChain Visit.HandsTo
  last : ∀ visit ∈ visits.getLast?, ∀ step called, visit.passed = some (step, called) →
    called.onRoute step.route = []

theorem HandedDown.stopped (scope : Fin n) (request : Request) :
    HandedDown scope request ([⟨scope, none⟩] : List (Visit n ν)) := by
  refine ⟨⟨none, [], rfl, nofun⟩, List.isChain_singleton _, ?_⟩
  rintro _ ⟨rfl⟩
  exact nofun

/-- Whatever handlers do, requests are handed down the steps. -/
theorem handedDown_of_handle {fuel : Nat}
    (h : world.handle router fuel scope request = some (evaluation, after)) :
    HandedDown scope request (world.visits router fuel scope request) ∧
      (world.visits router fuel scope request).filterMap Visit.step? = evaluation.steps := by
  induction fuel generalizing scope request world evaluation after with
  | zero => cases h
  | succ fuel ih =>
    have visited := visited_of_handle h
    generalize world.visits router (fuel + 1) scope request = visits at visited ⊢
    generalize evaluation.steps = steps at visited ⊢
    cases visited with
    | untouched => exact ⟨.stopped scope request, rfl⟩
    | failed _ => exact ⟨.stopped scope request, rfl⟩
    | @ended found own cursor step called takes none_stays =>
      refine ⟨⟨⟨_, [], rfl, ?_⟩, List.isChain_singleton _, ?_⟩, rfl⟩
      · rintro _ _ ⟨rfl⟩
        exact takes.root_and_scope
      · rintro _ ⟨rfl⟩ _ _ ⟨rfl⟩
        exact none_stays
    | @wentOn found own cursor step called inner child others evaluation takes first_stays
        handled =>
      obtain ⟨⟨⟨passed, rest, visits_eq, own⟩, chain, last⟩, steps_eq⟩ := ih handled
      rw [visits_eq] at chain last steps_eq ⊢
      refine ⟨⟨⟨_, _, rfl, ?_⟩, List.isChain_cons_cons.mpr ⟨?_, chain⟩, ?_⟩,
        congrArg (List.cons step) steps_eq⟩
      · rintro _ _ ⟨rfl⟩
        exact takes.root_and_scope
      · refine ⟨step, called, rfl, by simp [first_stays], ?_⟩
        intro lower left here
        obtain ⟨root, scope_eq⟩ := own lower left here
        refine ⟨scope_eq rfl, root.trans ?_⟩
        rw [Request.behind, Step.place, takes.root_and_scope.1]
      · rwa [List.getLast?_cons_cons]

@[simp]
theorem parents_commit (scope : Fin n) (data : RouteData) (root : String) (world : World n ν) :
    (world.commit scope data root).parents = world.parents :=
  funext fun other => parent_commit scope other data root world

/-- A handler that only mounts leaves the state of its scope alone. -/
theorem state_of_call {good : World n ν → Prop} {found : Found n ν} {data : RouteData}
    {succeeded : Bool} {called : World n ν}
    {navigate : Fin n → String → World n ν → Option (Outcome × World n ν)}
    (recorded : ∀ world events, good world → good (world.record events)) (start : good world)
    (stays : CallStaysIn good router found data world)
    (call : world.call router navigate found data = some (succeeded, called)) :
    (called.node found.scope).state = (world.node found.scope).state := by
  obtain ⟨_, _, call', _, mounted⟩ := call_of_staysIn good recorded navigate start stays
  cases call.symm.trans call'
  obtain ⟨_, self⟩ := mounted.self
  rw [self]

/-- A child that stays has its state and its parent behind the deactivation of the others. -/
theorem clear_onRoute {forest : Forest n} {route : RouteId n} {child : Fin n}
    (linked : world.Linked forest) (router : Router n ν) (stays : child ∈ world.onRoute route) :
    let cleared := world.deactivateAll router (world.offRoute route)
    cleared.Linked forest ∧ cleared.parents child = some route.scope ∧
      (cleared.node child).state = (world.node child).state := by
  have links : ∀ stale ∈ world.offRoute route, forest.upward stale = some route.scope :=
    fun _ => upward_of_mem_offRoute linked
  obtain ⟨kept, frame⟩ := deactivateAll_spec router linked links
  have node := frame child fun stale gone path => not_below_onRoute linked gone path stays .self
  refine ⟨kept, ?_, by rw [node]⟩
  rw [parents, node]
  exact linked.mem_children_iff.mp (List.mem_of_mem_filter stays)

/-- What a request leaves alone: the state of the scopes that are handed it and take no step. If it
is relative, its own scope comes first and all others are below it. -/
structure Spared (scope : Fin n) (relative : Bool) (world after : World n ν)
    (visits : List (Visit n ν)) : Prop where
  chain : visits.IsChain (Visit.Spares after)
  below : relative = true → ∀ visit ∈ visits, Below after.parents scope visit.scope
  first : relative = true → ∀ visit ∈ visits.head?, visit.scope = scope ∧
    (visit.passed = none → (after.node scope).state = (world.node scope).state)

namespace Spared

variable {relative : Bool} {visits : List (Visit n ν)}

theorem single {passed : Option (Step n × World n ν)}
    (own : relative = true → passed = none →
      (after.node scope).state = (world.node scope).state) :
    Spared scope relative world after [⟨scope, passed⟩] := by
  refine ⟨List.isChain_singleton _, fun _ => by simpa using Below.self, fun same => ?_⟩
  simpa using own same

/-- The scope of a step is above all that is visited behind it, so it is committed elsewhere. -/
theorem cons {step : Step n} {called cleared inner : World n ν} {child : Fin n}
    (spared : Spared child true cleared inner visits) (tree : inner.IsTree)
    (link : inner.parents child = some step.route.scope)
    (state : (cleared.node child).state = (called.node child).state)
    (own : relative = true → step.route.scope = scope) :
    Spared scope relative world (inner.commit step.route.scope step.data step.root)
      (⟨scope, some (step, called)⟩ :: visits) := by
  have committed : ∀ visit ∈ visits,
      ((inner.commit step.route.scope step.data step.root).node visit.scope).state =
        (inner.node visit.scope).state := by
    intro visit member
    obtain ⟨forest, upward, _⟩ := tree.exact
    have path := spared.below rfl visit member
    rw [← upward] at link path
    have different : visit.scope ≠ step.route.scope := by
      intro same
      rw [same] at path
      exact Forest.not_below_parent link path
    simp [different]
  refine ⟨List.isChain_cons.mpr ⟨?_, ?_⟩, fun same => ?_, fun _ => by simp⟩
  · rintro next head _ _ ⟨rfl⟩ stopped
    obtain ⟨here, kept⟩ := spared.first rfl next head
    rw [committed next (List.mem_of_mem_head? head), here]
    exact (kept stopped).trans state
  · refine spared.chain.imp_of_mem_imp ?_
    intro upper lower _ member spares step last passed stopped
    exact (committed lower member).trans (spares step last passed stopped)
  · rw [parents_commit]
    refine List.forall_mem_cons.mpr ⟨.self, fun visit member => ?_⟩
    rw [← own same]
    exact (spared.below rfl visit member).of_link link

end Spared

/-- Where the scopes stay a tree, those that are handed a request and take no step are spared. -/
theorem spared_of_handle {fuel : Nat} (tree : world.IsTree)
    (keeps : KeepsTree router fuel scope request world)
    (h : world.handle router fuel scope request = some (evaluation, after)) :
    Spared scope request.cursor.relative world after
      (world.visits router fuel scope request) := by
  induction fuel generalizing scope request world evaluation after with
  | zero => cases h
  | succ fuel ih =>
    have visited := visited_of_handle h
    generalize world.visits router (fuel + 1) scope request = visits at visited ⊢
    generalize evaluation.steps = steps at visited
    cases visited with
    | untouched => exact .single fun _ _ => rfl
    | @failed found own cursor step called takes =>
      refine .single fun relative _ => ?_
      obtain rfl := takes.step_eq
      have state := state_of_call (fun _ events tree => tree.record events) tree
        (keeps found own cursor takes.search takes.read).1 takes.call
      rwa [scope_of_search relative takes.search] at state
    | ended _ _ => exact .single fun _ stopped => by cases stopped
    | @wentOn found own cursor step called inner child others evaluation takes first_stays
        handled =>
      have own_scope := takes.root_and_scope.2
      obtain rfl := takes.step_eq
      obtain ⟨stays, further⟩ := keeps found own cursor takes.search takes.read
      obtain ⟨⟨forest, linked⟩, _⟩ := tree_of_call tree stays takes.call
      have first : child ∈ called.onRoute found.id :=
        List.mem_of_head? (List.head?_eq_some_iff.mpr ⟨others, first_stays⟩)
      obtain ⟨cleared, link, state⟩ := clear_onRoute linked router first
      have keeps_below : KeepsTree router fuel child
          (request.behind (found.data router request own cursor) cursor)
          (called.deactivateAll router (called.offRoute found.id)) := by
        have goes := further called child takes.call
        rw [plan_eq_onRoute] at goes
        exact goes (List.head?_eq_some_iff.mpr ⟨others, first_stays⟩)
      obtain ⟨inner_tree, _, spares⟩ := hangs_of_handle cleared.isTree keeps_below handled
      have stays_linked := (spares rfl).1.parent.trans link
      exact (ih cleared.isTree keeps_below handled).cons inner_tree stays_linked state own_scope

/-- Handlers may do anything: as long as scopes are mounted below their parents in a forest, each
step is on a scope strictly below those of the steps before it. -/
theorem nodup_of_mountsAlong {forest : Forest n} {fuel : Nat} (linked : world.Linked forest)
    (h : world.handle router fuel scope request = some (evaluation, after))
    (along : ∀ moment ∈ world.course router fuel scope request, moment.MountsAlong forest) :
    (evaluation.steps.map (·.route.scope)).Nodup ∧
      ∀ step ∈ evaluation.steps, Below forest.upward scope step.route.scope := by
  induction fuel generalizing scope request world evaluation after with
  | zero => cases h
  | succ fuel ih =>
    obtain ⟨less, same, ⟨_, rfl, _⟩ | ⟨found, search, handled⟩⟩ := handle_cases h
    · exact ⟨List.nodup_nil, List.forall_mem_nil _⟩
    · cases same
      cases handled with
      | unreadable _ => exact ⟨List.nodup_nil, List.forall_mem_nil _⟩
      | failed _ _ => exact ⟨List.nodup_nil, List.forall_mem_nil _⟩
      | @passed own cursor called cascaded below read call cascade =>
        have path := below_of_searchWith linked search
        have data : (found.step router request own cursor world).data =
          found.data router request own cursor := rfl
        simp only [course, search, matchedCourse, read, data, call, List.forall_mem_append] at along
        obtain ⟨call_along, cascade_along, _⟩ := along
        have follows : Follows router (handle router fuel) (course router fuel) := passes_of_handle
        have called_linked : called.Linked forest :=
          ((follows.passes_of_call (found.step router request own cursor world) rfl rfl
            call).throughout_of_allowed (fun leads along linked => linked.step leads along)
              call_along linked).2
        rcases cascade_cases cascade with ⟨_, rfl, _⟩ | ⟨child, evaluation, goes, handled, rfl⟩
        · exact ⟨List.nodup_singleton _, by simpa [Found.id] using path⟩
        · have link := upward_of_goesOn called_linked goes
          simp only [cascadeCourse, goes, List.forall_mem_append] at cascade_along
          obtain ⟨nodup, lower⟩ := ih (clear_contained router found.id called_linked).linked handled
            cascade_along.2
          refine ⟨List.nodup_cons.mpr ⟨?_, nodup⟩, List.forall_mem_cons.mpr ⟨path, ?_⟩⟩
          · rintro again
            obtain ⟨step, member, here⟩ := List.mem_map.mp again
            have below := lower step member
            rw [show step.route.scope = found.scope from here] at below
            exact Forest.not_below_parent link below
          · exact fun step member => path.trans ((lower step member).of_link link)

/-- Whether two steps, one behind the other, stand in the end, the second where the first has
ended, with all that is relative to its scope. -/
structure Reaches (router : Router n ν) (after : World n ν) (upper lower : Step n) : Prop where
  above : (after.node upper.route.scope).state = ⟨some upper.data, upper.root⟩
  below : (after.node lower.route.scope).state = ⟨some lower.data, upper.place⟩
  place : (after.node upper.route.scope).state.place? = some upper.place
  rooted : RootedAt router after lower.route.scope upper.place

end World

open World

/-- What a step hands down. The visits of an evaluation are those of its steps and at most one more,
which fails. Each is of the first child on the route of the step before, and its own step starts
where that one ends. If no scope takes two steps, both matches stand in the end, and all that is
relative to the child starts where the scope above it is, whatever handlers do. No scope takes two
steps if scopes are mounted below their parents in a forest, or if handlers only mount and the
scopes stay a tree. A child that takes no step keeps the state, and with it the root path, that it
was handed the rest of the path in, unless it is deactivated or a step is committed for it from then
on. Where handlers only mount and the scopes stay a tree, it always does. -/
theorem root_path_reaches_child {world after : World n ν} {fuel : Nat} {scope : Fin n}
    {url : String} {defaults : Values} {evaluation : Evaluation n}
    (h : world.eval router fuel scope url defaults = some (evaluation, after)) :
    let visits := world.evalVisits router fuel scope url defaults
    visits.filterMap Visit.step? = evaluation.steps ∧
    visits.IsChain Visit.HandsTo ∧
    (∀ visit ∈ visits.getLast?, ∀ step called, visit.passed = some (step, called) →
      called.onRoute step.route = []) ∧
    ((evaluation.steps.map (·.route.scope)).Nodup →
      visits.IsChain fun upper lower => ∀ step called own last,
        upper.passed = some (step, called) → lower.passed = some (own, last) →
          own.route.scope = lower.scope ∧ Reaches router after step own) ∧
    (∀ forest : Forest n, world.Linked forest →
      (∀ moment ∈ world.evalCourse router fuel scope url defaults, moment.MountsAlong forest) →
        (evaluation.steps.map (·.route.scope)).Nodup) ∧
    (visits.IsChain fun upper lower => ∀ step called, upper.passed = some (step, called) →
      lower.passed = none → ∃ stop : Stop n ν, stop.IsBelow router step called lower.scope ∧
        stop.Ends router (world.evalCourse router fuel scope url defaults) evaluation.steps
          world after ∧
        stop.Keeps router evaluation.steps after) ∧
    ∀ owner request, world.locate router scope url defaults = some (owner, request) →
      world.IsTree → KeepsTree router fuel owner request world →
        (evaluation.steps.map (·.route.scope)).Nodup ∧ visits.IsChain (Visit.Spares after) := by
  obtain ⟨owner, request, located, handled⟩ := eval_eq_some_iff.mp h
  have visits_eq : world.evalVisits router fuel scope url defaults =
      world.visits router fuel owner request := by
    unfold evalVisits
    rw [located]
  obtain ⟨⟨_, chain, last⟩, steps_eq⟩ := handedDown_of_handle handled
  intro visits
  simp only [visits, visits_eq]
  refine ⟨steps_eq, chain, last, ?_, ?_, ?_, ?_⟩
  · intro nodup
    have stands : ∀ visit ∈ world.visits router fuel owner request, ∀ step called,
        visit.passed = some (step, called) →
          (after.node step.route.scope).state = ⟨some step.data, step.root⟩ := by
      intro visit member step called passed
      apply state_of_handle handled
      apply find?_of_nodup nodup
      rw [← steps_eq]
      exact List.mem_filterMap.mpr ⟨visit, member, by rw [Visit.step?, passed]; rfl⟩
    refine chain.imp_of_mem_imp ?_
    rintro upper lower above below ⟨step, called, passed, _, hands⟩ _ _ own left passed' behind
    cases passed.symm.trans passed'
    obtain ⟨here, root⟩ := hands own left behind
    have upper_state := stands upper above step called passed
    have lower_state := stands lower below own left behind
    rw [root] at lower_state
    refine ⟨here, upper_state, lower_state, by rw [upper_state]; rfl, .of_rootPath router ?_⟩
    rw [lower_state]
  · intro forest linked along
    unfold evalCourse at along
    rw [located] at along
    exact (nodup_of_mountsAlong linked handled along).1
  · refine (stops_of_handle handled).imp fun upper lower stops step called passed stopped => ?_
    obtain ⟨stop, is_below, ends⟩ := stops step called passed stopped
    have course_eq : world.evalCourse router fuel scope url defaults =
        world.course router fuel owner request := by
      unfold evalCourse
      rw [located]
    rw [course_eq]
    exact ⟨stop, is_below, ends, ends.keeps is_below.relative⟩
  · intro _ _ located' tree keeps
    cases located.symm.trans located'
    obtain ⟨after_tree, hangs, _⟩ := hangs_of_handle tree keeps handled
    exact ⟨nodup_of_hangs after_tree hangs, (spared_of_handle tree keeps handled).chain⟩

/-- The items of another area start there, and so does what is relative to them. -/
theorem root_path_reaches_items :
    ∃ (world after : World 2 Unit) (evaluation : Evaluation 2),
      (world.node 1).state.rootPath = "/a/" ∧
      world.eval areas 2 0 "/b/view/2" .empty = some (evaluation, after) ∧
      (after.node 0).state.place? = some "/b/" ∧ (after.node 1).state.rootPath = "/b/" ∧
      ∃ request, after.locate areas 1 "./view/3" .empty = some (1, request) ∧
        request.root = "/b/" := by
  have facts : (World.initial.eval areas 2 0 "/a/view/1" .empty).bind (fun first =>
      (first.2.eval areas 2 0 "/b/view/2" .empty).map fun second =>
        ((first.2.node 1).state.rootPath,
          (first.2.evalVisits areas 2 0 "/b/view/2" .empty).map fun visit =>
            visit.passed.map fun (step, _) => (step.route.scope, step.place))) =
      some ("/a/", [some (0, "/b/"), some (1, "/b/view/2/")]) := by
    decide +kernel
  obtain ⟨⟨_, world⟩, first, facts⟩ := Option.bind_eq_some_iff.mp facts
  obtain ⟨⟨evaluation, after⟩, h, facts⟩ := Option.map_eq_some_iff.mp facts
  obtain ⟨before, visits⟩ := Prod.mk.inj facts
  have linked : world.Linked areasForest :=
    (World.Reachable.evaluated areas_mountsWithin .initial first).linked
  obtain ⟨owner, request, located, _⟩ := eval_eq_some_iff.mp h
  obtain ⟨_, _, _, reaches, _, _, in_tree⟩ := root_path_reaches_child h
  have nodup := (in_tree owner request located linked.isTree
    (keepsTree_of_mountsWithin areas_mountsWithin linked _ _ _)).1
  have chain := reaches nodup
  generalize world.evalVisits areas 2 0 "/b/view/2" .empty = handed at visits chain
  obtain ⟨above, _, rfl, above_step, visits⟩ := List.map_eq_cons_iff.mp visits
  obtain ⟨below, _, rfl, below_step, _⟩ := List.map_eq_cons_iff.mp visits
  simp only [Option.map_eq_some_iff, Prod.mk.injEq] at above_step below_step
  obtain ⟨⟨upper, called⟩, passed, page, place⟩ := above_step
  obtain ⟨⟨lower, last⟩, behind, items, _⟩ := below_step
  obtain ⟨_, stands⟩ := (List.isChain_cons_cons.mp chain).1 upper called lower last passed behind
  have at_place := stands.place
  have rooted := stands.rooted
  rw [page, place] at at_place
  rw [items, place] at rooted
  obtain ⟨request, located, root, _⟩ := rooted.locate "./view/3" .empty (by decide +kernel)
  exact ⟨world, after, evaluation, before, h, at_place, rooted.root, request, located, root⟩

/-- An area without a path for its items hands them nothing that they match, and their root path
stays what it was. -/
theorem root_path_stays_behind :
    ∃ (after : World 2 Unit) (evaluation : Evaluation 2) (page items : Visit 2 Unit),
      World.initial.eval areas 2 0 "/a" .empty = some (evaluation, after) ∧
      World.initial.evalVisits areas 2 0 "/a" .empty = [page, items] ∧
      page.step?.map Step.route = some ⟨0, 1⟩ ∧ items.scope = 1 ∧
      (after.node 1).parent = some 0 ∧ (after.node 1).mountedOn = some ⟨0, 1⟩ ∧
      (after.node 0).state.place? = some "/a/" ∧ (after.node 1).state.rootPath = "/" := by
  have facts : (World.initial.eval areas 2 0 "/a" .empty).map (fun result =>
      ((World.initial.evalVisits areas 2 0 "/a" .empty).map fun visit =>
          (visit.scope, visit.step?.map Step.route),
        ((result.2.node 1).parent, (result.2.node 1).mountedOn),
        (result.2.node 0).state.place?, (result.2.node 1).state.rootPath)) =
      some ([(0, some ⟨0, 1⟩), (1, none)], (some 0, some ⟨0, 1⟩), some "/a/", "/") := by
    decide +kernel
  obtain ⟨⟨evaluation, after⟩, h, facts⟩ := Option.map_eq_some_iff.mp facts
  simp only [Prod.mk.injEq] at facts
  obtain ⟨visits, ⟨parent, mountedOn⟩, place, root⟩ := facts
  obtain ⟨page, _, visits_eq, first, rest⟩ := List.map_eq_cons_iff.mp visits
  obtain ⟨items, _, rfl, second, ends⟩ := List.map_eq_cons_iff.mp rest
  obtain rfl := List.map_eq_nil_iff.mp ends
  exact ⟨after, evaluation, page, items, h, visits_eq, (Prod.mk.inj first).2,
    (Prod.mk.inj second).1, parent, mountedOn, place, root⟩

end ScopedRouting
