import ScopedRouting.Proofs.Scope.Calls

/-!
# Evaluating a URL twice

An evaluation leaves its scopes committed, its stale children gone and its chain of mounted
children in place. If no handler has failed, the same request finds the same entry again, takes
every match for unchanged and goes down the same chain, and nothing happens on the way.
-/
namespace ScopedRouting

variable {n : Nat} {ν : Type} {router : Router n ν} {forest : Forest n}

/-- The evaluation without a call. -/
def Evaluation.uncalled (evaluation : Evaluation n) : Evaluation n :=
  ⟨evaluation.outcome, evaluation.steps.map fun step => { step with invoked := false }⟩

/-- A committed match is where it was. -/
theorem ScopeState.isUnchanged_committed (config : Config) (data : RouteData) (root : String) :
    (ScopeState.mk (some data) root).isUnchanged config data = true := by
  simp [ScopeState.isUnchanged]

namespace World

variable {world other after : World n ν} {found : Found n ν} {request : Request}
  {evaluation : Evaluation n}

/-- Whether a world has the nodes of another one below a scope. -/
def AgreesBelow (forest : Forest n) (top : Fin n) (world other : World n ν) : Prop :=
  ∀ scope, Below forest.upward top scope → other.node scope = world.node scope

/-- What a search finds depends on the nodes below the scope where it starts. -/
theorem searchWith_congr (linked : world.Linked forest) {cursor : Cursor} {fuel : Nat}
    {scope : Fin n} (agrees : AgreesBelow forest scope world other) :
    other.searchWith router cursor fuel scope = world.searchWith router cursor fuel scope := by
  induction fuel generalizing scope with
  | zero => rfl
  | succ fuel ih =>
    have children : (world.node scope).children.findSomeM? (other.searchWith router cursor fuel) =
        (world.node scope).children.findSomeM? (world.searchWith router cursor fuel) := by
      apply findSomeM?_congr
      intro child member
      exact ih fun lower path => agrees lower (Below.of_link (linked.upward_of_mem member) path)
    rw [searchWith, searchWith, agrees scope .self, children]

/-- A search that has found an entry finds it again if only nodes below its scope change. -/
theorem searchWith_stable (linked : world.Linked forest) {cursor : Cursor} {fuel : Nat}
    {scope : Fin n} (same : SameOutside forest found.scope world other)
    (h : world.searchWith router cursor fuel scope = some (some found)) :
    other.searchWith router cursor fuel scope = some (some found) := by
  induction fuel generalizing scope with
  | zero => cases h
  | succ fuel ih =>
    rw [searchWith] at h ⊢
    split at h
    · rename_i entry place first
      cases h
      rfl
    · rename_i first
      split at h
      · cases h
      · rename_i absolute
        have links : ∀ child ∈ (world.node scope).children, forest.upward child = some scope :=
          fun _ => linked.upward_of_mem
        obtain ⟨last, member, below⟩ := exists_of_findSomeM? h
        have above : ¬ Below forest.upward found.scope scope := fun up =>
          Forest.not_below_parent (links last member) ((below_of_searchWith linked below).trans up)
        rw [if_neg absolute, same scope above]
        have nodup := linked.nodup scope
        generalize (world.node scope).children = children at h links nodup
        clear below member
        induction children with
        | nil => cases h
        | cons child rest inner =>
          rcases findSomeM?_cons_cases h with ⟨x, below, same⟩ | ⟨nothing, later⟩
          · cases same
            exact findSomeM?_cons_some (ih below)
          · have agrees : AgreesBelow forest child world other := by
              intro lower path
              apply same
              intro shared
              obtain ⟨next, member, below⟩ := exists_of_findSomeM? later
              have equal := Forest.sibling_unique (links child List.mem_cons_self)
                (links next (List.mem_cons_of_mem child member)) path
                ((below_of_searchWith linked below).trans shared)
              exact (List.nodup_cons.mp nodup).1 (equal ▸ member)
            rw [findSomeM?_cons_none ((searchWith_congr linked agrees).trans nothing)]
            exact inner later (fun other member => links other (List.mem_cons_of_mem child member))
              (List.nodup_cons.mp nodup).2

/-- A relative cursor only asks the table of the scope, which never changes. -/
theorem search_of_relative {cursor : Cursor} (relative : cursor.relative = true) (scope : Fin n)
    (world other : World n ν) :
    other.search router cursor scope = world.search router cursor scope := by
  rw [search_relative relative, search_relative relative]

/-- Committing a match once more changes nothing. -/
theorem commit_of_committed {scope : Fin n} {data : RouteData} {root : String}
    (committed : (world.node scope).state = ⟨some data, root⟩) :
    world.commit scope data root = world := by
  apply ext_node
  · intro other
    by_cases same : other = scope
    · subst same
      rw [node_commit_self]
      generalize world.node other = node at committed ⊢
      obtain ⟨parent, mountedOn, children, state⟩ := node
      subst committed
      rfl
    · simp [same]
  · simp

/-- What a step on a child does leaves the plan of its parent alone. -/
theorem plan_of_contained {matched : RouteId n} {child : Fin n} (linked : world.Linked forest)
    (link : forest.upward child = some matched.scope)
    (contained : Contained forest child world after) : after.plan matched = world.plan matched := by
  apply plan_congr
  · rw [contained.outside matched.scope (Forest.not_below_parent link)]
  · intro listed member
    by_cases same : listed = child
    · rw [same]
      exact contained.mountedOn
    · rw [contained.outside listed]
      intro path
      exact same (Forest.sibling_unique (linked.upward_of_mem member) link .self path)

/-- Whether requests that have been handled on scopes below a scope, relative and without a failed
call, do nothing when they are handled again. -/
def RepeatsBelow (forest : Forest n) (top : Fin n)
    (handle : Fin n → Request → World n ν → Option (Evaluation n × World n ν)) : Prop :=
  ∀ {child : Fin n} {request : Request} {world after other : World n ν}
    {evaluation : Evaluation n}, forest.upward child = some top → world.Linked forest →
      request.cursor.relative = true → handle child request world = some (evaluation, after) →
        after.calls = world.calls ++ Step.calls evaluation.steps →
          AgreesBelow forest child after other →
            handle child request other = some (evaluation.uncalled, other)

/-- A committed match is unchanged, so that its handler is not called again. -/
theorem call_of_committed (router : Router n ν) {data : RouteData} {root : String}
    (committed : (world.node found.scope).state = ⟨some data, root⟩)
    (navigate : Fin n → String → World n ν → Option (Outcome × World n ν)) :
    world.isUnchanged router found data = true ∧
      world.call router navigate found data = some (true, world) := by
  have unchanged : world.isUnchanged router found data = true := by
    rw [isUnchanged, committed]
    exact ScopeState.isUnchanged_committed _ _ _
  exact ⟨unchanged, by rw [call, if_pos unchanged]⟩

/-- Behind a settled plan a cascade only hands the request on. -/
theorem cascade_of_settled
    {handle : Fin n → Request → World n ν → Option (Evaluation n × World n ν)}
    {matched : RouteId n} {goesOn : Option (Fin n)} (settled : world.plan matched = ⟨goesOn, []⟩)
    {steps : List (Step n)}
    (handled : match goesOn with
      | none => steps = []
      | some child => ∃ outcome, handle child request world = some (⟨outcome, steps⟩, world)) :
    world.cascade router handle matched request = some (steps, world) := by
  rw [cascade, settled]
  cases goesOn with
  | none =>
    rw [handled]
    rfl
  | some child =>
    obtain ⟨outcome, handled⟩ := handled
    change Option.bind (handle child request world) _ = _
    rw [handled]
    rfl

/-- A cascade without a failed call does nothing when it is gone through again, in a world with the
same list of children and the same nodes below them. -/
theorem cascade_again {handle : Fin n → Request → World n ν → Option (Evaluation n × World n ν)}
    {matched : RouteId n} {steps : List (Step n)} (linked : world.Linked forest)
    (contains : HandlesBelow forest matched.scope handle)
    (repeats : RepeatsBelow forest matched.scope handle) (relative : request.cursor.relative = true)
    (cascade : world.cascade router handle matched request = some (steps, after))
    (passed : after.calls = world.calls ++ Step.calls steps)
    (children : (other.node matched.scope).children = (after.node matched.scope).children)
    (agrees : ∀ child, forest.upward child = some matched.scope →
      AgreesBelow forest child after other) :
    other.cascade router handle matched request =
      some (steps.map fun step => { step with invoked := false }, other) := by
  have after_linked := (cascade_contained linked contains cascade).linked
  have cleared := clear_contained router matched linked
  have settled := plan_deactivateAll router matched linked
  have plan_other : other.plan matched = after.plan matched := by
    apply plan_congr children
    intro child member
    rw [agrees child (after_linked.upward_of_mem member) child .self]
  rcases cascade_cases cascade with ⟨ends, rfl, rfl⟩ | ⟨child, evaluation, goes, handled, rfl⟩
  · rw [ends] at settled
    exact cascade_of_settled (plan_other.trans settled) rfl
  · have link : forest.upward child = some matched.scope := upward_of_goesOn linked goes
    have calls_child : after.calls =
        (world.deactivateAll router (world.plan matched).deactivate).calls ++
          Step.calls evaluation.steps := by
      rw [calls_deactivateAll, passed]
    have again := repeats link cleared.linked relative handled calls_child (agrees child link)
    have plan_child : after.plan matched =
        (world.deactivateAll router (world.plan matched).deactivate).plan matched :=
      plan_of_contained cleared.linked link (contains link cleared.linked handled)
    rw [goes] at settled
    exact cascade_of_settled (plan_other.trans (plan_child.trans settled)) ⟨_, again⟩

/-- A match that has been handled without a failed call does nothing when it is handled again in a
world with the same nodes below its scope. -/
theorem Handled.again {handle : Fin n → Request → World n ν → Option (Evaluation n × World n ν)}
    (mounts : router.MountsWithin forest) (inTable : InTable router found)
    (linked : world.Linked forest) (contains : HandlesBelow forest found.scope handle)
    (repeats : RepeatsBelow forest found.scope handle)
    (handled : Handled router handle found request world evaluation after)
    (passed : after.calls = world.calls ++ Step.calls evaluation.steps)
    (agrees : AgreesBelow forest found.scope after other) :
    other.handleMatched router handle found request = some (evaluation.uncalled, other) := by
  cases handled with
  | unreadable read =>
    rw [handleMatched, read]
    rfl
  | failed read call =>
    obtain ⟨called, calls⟩ := calls_of_call
      (callStaysIn_of_mountsWithin mounts inTable linked _) call
    rw [calls, called.resolve_left Bool.false_ne_true] at passed
    simp [Evaluation.failed, Step.calls] at passed
  | @passed own cursor called cascaded below read call cascade =>
    obtain ⟨called_linked, _⟩ := linked_of_call mounts inTable linked call
    obtain ⟨_, calls⟩ := calls_of_call
      (callStaysIn_of_mountsWithin mounts inTable linked _) call
    generalize same_data : found.data router request own cursor = data at *
    have node_scope : other.node found.scope =
        { cascaded.node found.scope with state := ⟨some data, request.root⟩ } := by
      simp [agrees found.scope .self]
    have node_below : ∀ child, forest.upward child = some found.scope →
        AgreesBelow forest child cascaded other := by
      intro child link lower path
      rw [agrees lower (Below.of_link link path)]
      apply node_commit_other
      rintro rfl
      exact Forest.not_below_parent link path
    have passed_below : cascaded.calls = called.calls ++ Step.calls below := by
      rw [calls_commit, Step.calls_cons] at passed
      rw [calls, passed, ← List.append_assoc]
      cases world.isUnchanged router found data <;> rfl
    have list : (other.node found.scope).children = (cascaded.node found.scope).children := by
      rw [node_scope]
    have cascade_other :=
      cascade_again called_linked contains repeats rfl cascade passed_below list node_below
    obtain ⟨unchanged, call_other⟩ := call_of_committed router
      (congrArg Node.state node_scope) (navigateWith router handle)
    subst same_data
    have again := handleMatched_eq_some_iff.mpr (.passed read call_other cascade_other)
    rw [commit_of_committed (congrArg Node.state node_scope), unchanged] at again
    exact again

/-- A request that has been handled without a failed call does nothing when it is handled again.
A relative one may be handled again in any world with the same nodes below the scope. -/
theorem handle_again (mounts : router.MountsWithin forest) {fuel : Nat} {scope : Fin n}
    (linked : world.Linked forest) (relative : request.cursor.relative = true)
    (h : world.handle router fuel scope request = some (evaluation, after))
    (passed : after.calls = world.calls ++ Step.calls evaluation.steps)
    (agrees : AgreesBelow forest scope after other) :
    other.handle router fuel scope request = some (evaluation.uncalled, other) := by
  induction fuel generalizing scope request world after other evaluation with
  | zero => cases h
  | succ fuel ih =>
    obtain ⟨less, same, ⟨search, rfl, rfl⟩ | ⟨found, search, handled⟩⟩ := handle_cases h
    · exact handle_of_search_none ((search_of_relative relative scope _ other).trans search)
    · cases same
      have own := scope_of_search relative search
      subst own
      rw [handle_of_search_some ((search_of_relative relative _ world other).trans search)]
      exact handled.again mounts (inTable_of_search search) linked
        (fun _ linked handled => handle_contained mounts linked handled)
        (fun _ linked relative handled passed agrees => ih linked relative handled passed agrees)
        passed agrees

theorem handle_twice (mounts : router.MountsWithin forest) {fuel : Nat} {scope : Fin n}
    (linked : world.Linked forest)
    (h : world.handle router fuel scope request = some (evaluation, after))
    (passed : after.calls = world.calls ++ Step.calls evaluation.steps) :
    after.handle router fuel scope request = some (evaluation.uncalled, after) := by
  obtain ⟨less, rfl, ⟨search, rfl, rfl⟩ | ⟨found, search, handled⟩⟩ := handle_cases h
  · exact handle_of_search_none search
  · have inTable := inTable_of_search search
    have contains : HandlesBelow forest found.scope (handle router less) :=
      fun _ linked handled => handle_contained mounts linked handled
    have contained := handled.contained mounts inTable linked contains
    rw [handle_of_search_some (searchWith_stable linked contained.outside search)]
    exact handled.again mounts inTable linked contains
      (fun _ linked relative handled passed agrees =>
        handle_again mounts linked relative handled passed agrees)
      passed fun _ _ => rfl

/-- A relative step leaves the root path of its scope alone if that is where it started. -/
theorem rootPath_of_handle (mounts : router.MountsWithin forest) {fuel : Nat} {scope : Fin n}
    (linked : world.Linked forest) (relative : request.cursor.relative = true)
    (root : request.root = (world.node scope).state.rootPath)
    (h : world.handle router fuel scope request = some (evaluation, after)) :
    (after.node scope).state.rootPath = (world.node scope).state.rootPath := by
  obtain ⟨less, rfl, ⟨_, _, rfl⟩ | ⟨found, search, handled⟩⟩ := handle_cases h
  · rfl
  · have own := scope_of_search relative search
    subst own
    cases handled with
    | unreadable _ => rfl
    | failed _ call =>
      obtain ⟨_, mounted⟩ := linked_of_call mounts (inTable_of_search search) linked call
      rw [mounted.state_eq]
    | passed _ _ _ =>
      simpa using root

theorem locate_of_relative {scope : Fin n} {url : String}
    (relative : ((router.get scope).config.pathOf url).relative = true) (defaults : Values)
    (world : World n ν) :
    world.locate router scope url defaults =
      let config := (router.get scope).config
      let rootPath := (world.node scope).state.rootPath
      let root := (Path.parse config.pathOptions rootPath).segments
      some (scope, ⟨rootPath, .resumed (root ++ (config.pathOf url).segments) root.length, defaults,
        config.queryOf url⟩) := by
  rw [locate]
  exact if_pos relative

/-- A URL leads to the same place if the root path or the top that counts for it is the same. -/
theorem locate_congr {scope : Fin n} {url : String} (defaults : Values)
    (root : ((router.get scope).config.pathOf url).relative = true →
      (other.node scope).state.rootPath = (world.node scope).state.rootPath)
    (top : ((router.get scope).config.pathOf url).relative = false →
      other.root? scope = world.root? scope) :
    other.locate router scope url defaults = world.locate router scope url defaults := by
  cases relative : ((router.get scope).config.pathOf url).relative with
  | true =>
    rw [locate_of_relative relative, locate_of_relative relative, root relative]
  | false =>
    unfold locate
    rw [top relative]
    simp only [relative]
    rfl

/-- A URL that has been evaluated without a failed call does nothing when it is evaluated again,
unless it is absolute and its scope has got another top. -/
theorem eval_twice (mounts : router.MountsWithin forest) {fuel : Nat} {scope : Fin n}
    {url : String} {defaults : Values} (linked : world.Linked forest)
    (h : world.eval router fuel scope url defaults = some (evaluation, after))
    (passed : after.calls = world.calls ++ Step.calls evaluation.steps)
    (top : ((router.get scope).config.pathOf url).relative = true ∨
      after.root? scope = world.root? scope) :
    after.eval router fuel scope url defaults = some (evaluation.uncalled, after) := by
  obtain ⟨owner, request, located, handled⟩ := eval_eq_some_iff.mp h
  have again := handle_twice mounts linked handled passed
  refine eval_eq_some_iff.mpr ⟨owner, request, ?_, again⟩
  rw [← located]
  apply locate_congr
  · intro relative
    rw [locate_of_relative relative] at located
    cases located
    exact rootPath_of_handle mounts linked rfl rfl handled
  · intro absolute
    rw [absolute] at top
    exact top.resolve_left Bool.false_ne_true

/-- The worlds that come about while scopes are only mounted below their parents in a forest. What
handlers do may be different each time. -/
inductive Reachable (forest : Forest n) : World n ν → Prop
  | initial : Reachable forest .initial
  | evaluated {router : Router n ν} {fuel : Nat} {scope : Fin n} {url : String}
      {defaults : Values} {world after : World n ν} {evaluation : Evaluation n}
      (mounts : router.MountsWithin forest) (before : Reachable forest world)
      (h : world.eval router fuel scope url defaults = some (evaluation, after)) :
      Reachable forest after
  | handled {router : Router n ν} {fuel : Nat} {scope : Fin n} {request : Request}
      {world after : World n ν} {evaluation : Evaluation n}
      (mounts : router.MountsWithin forest) (before : Reachable forest world)
      (h : world.handle router fuel scope request = some (evaluation, after)) :
      Reachable forest after
  | mounted {router : Router n ν} {parent child : Fin n} {world : World n ν}
      (link : forest.upward child = some parent) (route : RouteId n)
      (before : Reachable forest world) :
      Reachable forest (world.activate router parent child route).1
  | deactivated {router : Router n ν} {world : World n ν} (scope : Fin n)
      (before : Reachable forest world) : Reachable forest (world.deactivate router scope).1

theorem Reachable.linked (reachable : Reachable forest world) : world.Linked forest := by
  induction reachable with
  | initial => exact linked_initial
  | evaluated mounts _ h linked =>
    obtain ⟨owner, request, _, handled⟩ := eval_eq_some_iff.mp h
    exact (handle_contained mounts linked handled).linked
  | handled mounts _ h linked => exact (handle_contained mounts linked h).linked
  | mounted link route _ linked => exact linked.activate link route
  | deactivated scope _ linked => exact (deactivate_spec _ linked scope).1

end World

end ScopedRouting
