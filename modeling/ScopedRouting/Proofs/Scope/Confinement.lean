import ScopedRouting.Proofs.Scope.Descent

/-!
# Evaluations stay below their owner

The scope whose table has the match owns an evaluation. Its handler mounts scopes below it, stale
children are deactivated with what is below them, and the rest of the path goes to one child. So
whatever handler is called and whatever hooks run belong to the owner or to a scope below it, a
handler comes before those further down, and no other scope changes.
-/
namespace ScopedRouting

variable {n : Nat} {ν : Type} {router : Router n ν} {forest : Forest n}

/-- The scope whose handler was called or whose hooks ran. -/
def Event.scope? : Event n ν → Option (Fin n)
  | .invoked scope _ => some scope
  | .hooksRan scope _ => some scope
  | .noted _ => none

theorem Event.scope?_of_call? {event : Event n ν} {call : Fin n × RouteData}
    (h : event.call? = some call) : event.scope? = some call.1 := by
  cases event with
  | invoked _ _ =>
    cases h
    rfl
  | hooksRan _ _ => cases h
  | noted _ => cases h

/-- A batch of hooks is about its scope and calls no handler. -/
theorem Router.mem_batch {phase : Phase} {scope : Fin n} {event : Event n ν}
    (member : event ∈ router.batch phase scope) :
    event.call? = none ∧ ∀ other ∈ event.scope?, other = scope := by
  rcases List.mem_cons.mp member with rfl | noted
  · simp [Event.call?, Event.scope?]
  · simp only [List.mem_flatMap, List.mem_map] at noted
    obtain ⟨_, _, _, _, rfl⟩ := noted
    simp [Event.call?, Event.scope?]

/-- A sibling, or another root, is not below a scope. -/
theorem Forest.not_below_of_same_parent {scope other : Fin n} (different : other ≠ scope)
    (same : forest.upward other = forest.upward scope) : ¬ Below forest.upward scope other := by
  intro path
  cases path with
  | self => exact different rfl
  | under link path => exact Forest.not_below_parent (same ▸ link) path

/-- Whether each call belongs to a scope strictly below those of the calls before it. -/
def Forest.Descending (forest : Forest n) (calls : List (Fin n × RouteData)) : Prop :=
  calls.Pairwise fun earlier later =>
    Below forest.upward earlier.1 later.1 ∧ later.1 ≠ earlier.1

namespace World

variable {world after : World n ν} {top scope : Fin n} {request : Request}

/-- Whether everything that has been recorded since is about scopes below another, with these
calls of handlers among it. -/
def RecordsBelow (forest : Forest n) (top : Fin n) (calls : List (Fin n × RouteData))
    (world after : World n ν) : Prop :=
  ∃ events, after.trace = world.trace ++ events ∧ events.filterMap Event.call? = calls ∧
    ∀ event ∈ events, ∀ scope ∈ event.scope?, Below forest.upward top scope

namespace RecordsBelow

variable {a b c : World n ν} {calls others : List (Fin n × RouteData)}

theorem of_same_trace (same : b.trace = a.trace) : RecordsBelow forest top [] a b :=
  ⟨[], by simp [same], rfl, by simp⟩

theorem trans (first : RecordsBelow forest top calls a b)
    (second : RecordsBelow forest top others b c) :
    RecordsBelow forest top (calls ++ others) a c := by
  obtain ⟨earlier, trace, rfl, below⟩ := first
  obtain ⟨later, trace', rfl, below'⟩ := second
  refine ⟨earlier ++ later, by rw [trace', trace, List.append_assoc], List.filterMap_append, ?_⟩
  exact List.forall_mem_append.mpr ⟨below, below'⟩

theorem lift (path : Below forest.upward top scope)
    (records : RecordsBelow forest scope calls a b) : RecordsBelow forest top calls a b := by
  obtain ⟨events, trace, called, below⟩ := records
  exact ⟨events, trace, called, fun event member other about =>
    path.trans (below event member other about)⟩

/-- What is called is among what is recorded. -/
theorem below_of_mem (records : RecordsBelow forest top calls a b) {call : Fin n × RouteData}
    (member : call ∈ calls) : Below forest.upward top call.1 := by
  obtain ⟨events, _, rfl, below⟩ := records
  obtain ⟨event, recorded, here⟩ := List.mem_filterMap.mp member
  exact below event recorded call.1 (Event.scope?_of_call? here)

theorem of_batches {phase : Phase} {order : List (Fin n)}
    (trace : b.trace = a.trace ++ order.flatMap (router.batch phase))
    (below : ∀ scope ∈ order, Below forest.upward top scope) :
    RecordsBelow forest top [] a b := by
  refine ⟨_, trace, ?_, ?_⟩
  · simp only [List.filterMap_eq_nil_iff, List.mem_flatMap]
    rintro event ⟨scope, _, member⟩
    exact (Router.mem_batch member).1
  · intro event member other about
    obtain ⟨scope, listed, batch⟩ := List.mem_flatMap.mp member
    rw [(Router.mem_batch batch).2 other about]
    exact below scope listed

end RecordsBelow

theorem activate_records {parent child : Fin n} (link : forest.upward child = some parent)
    (router : Router n ν) (route : RouteId n) (world : World n ν) :
    RecordsBelow forest parent [] world (world.activate router parent child route).1 := by
  have trace : (world.activate router parent child route).1.trace = world.trace ++ _ :=
    trace_activate (Forest.ne_of_link link) route
  split at trace
  · exact .of_same_trace (trace.trans (List.append_nil _))
  · rw [← List.flatMap_singleton (router.batch .activate) child] at trace
    exact .of_batches trace (by simpa using Below.under link .self)

end World

open World

/-- A handler that only mounts runs the hooks of scopes below its own. -/
theorem Program.MountsBelow.records {route : RouteId n}
    {navigate : Fin n → String → World n ν → Option (Outcome × World n ν)}
    {program : Program n ν} (mounts : program.MountsBelow forest route.scope)
    {world after : World n ν} {succeeded : Bool}
    (ran : program.run router navigate route world = some (succeeded, after)) :
    RecordsBelow forest route.scope [] world after := by
  induction program generalizing world with
  | finish _ =>
    cases ran
    exact .of_same_trace rfl
  | note what next ih =>
    have first : RecordsBelow forest route.scope [] world (world.record [.noted what]) :=
      ⟨[.noted what], rfl, rfl, by simp [Event.scope?]⟩
    exact first.trans (ih mounts ran)
  | mount child next ih =>
    have later : RecordsBelow forest route.scope []
        (world.activate router route.scope child route).1 after := ih _ (mounts.2 _) ran
    by_cases same : child = route.scope
    · simpa [same] using later
    · exact (activate_records (mounts.1 same) router route world).trans later
  | mountUnder _ _ _ _ _ => exact False.elim mounts
  | deactivate _ _ _ => exact False.elim mounts
  | navigate _ _ _ _ => exact False.elim mounts

namespace World

variable {world after : World n ν} {scope : Fin n} {request : Request} {found : Found n ν}
  {evaluation : Evaluation n}

theorem call_records (mounts : router.MountsWithin forest) (inTable : InTable router found)
    {navigate : Fin n → String → World n ν → Option (Outcome × World n ν)} {data : RouteData}
    {succeeded : Bool}
    (call : world.call router navigate found data = some (succeeded, after)) :
    RecordsBelow forest found.scope
      (if world.isUnchanged router found data then [] else [(found.scope, data)]) world after := by
  rcases call_cases call with ⟨unchanged, rfl, rfl⟩ | ⟨changed, ran⟩
  · rw [if_pos unchanged]
    exact .of_same_trace rfl
  · have first : RecordsBelow forest found.scope [(found.scope, data)] world
        (world.record [.invoked found.scope data]) := by
      refine ⟨_, rfl, rfl, ?_⟩
      simpa [Event.scope?] using Below.self
    rw [if_neg (Bool.eq_false_iff.mp changed)]
    exact first.trans
      ((mounts found.scope found.entry inTable ⟨found.id, data⟩ rfl).records ran)

/-- Deactivating the stale children runs the hooks of scopes below their parent. -/
theorem clear_records (linked : world.Linked forest) (router : Router n ν) (matched : RouteId n) :
    RecordsBelow forest matched.scope [] world
      (world.deactivateAll router (world.plan matched).deactivate) := by
  have links : ∀ child ∈ (world.plan matched).deactivate,
      forest.upward child = some matched.scope := fun _ => upward_of_stale linked
  obtain ⟨order, inOrder, _, trace⟩ :=
    linked.deactivateAll_inOrder router (nodup_stale linked matched) links
  refine .of_batches trace ?_
  intro scope member
  obtain ⟨child, listed, path⟩ := inOrder.exists_below linked member
  exact path.of_link (links child listed)

/-- Whether all that has been recorded since is about scopes below another, and handlers were
called from the top down. -/
def CallsDown (forest : Forest n) (top : Fin n) (world after : World n ν) : Prop :=
  ∃ calls, RecordsBelow forest top calls world after ∧ forest.Descending calls

/-- A call comes before the calls below its scope. -/
theorem CallsDown.behind_call {called : World n ν} {calls : List (Fin n × RouteData)}
    {child : Fin n} (first : RecordsBelow forest scope calls world called)
    (own : calls = [] ∨ ∃ data, calls = [(scope, data)])
    (link : forest.upward child = some scope) (later : CallsDown forest child called after) :
    CallsDown forest scope world after := by
  obtain ⟨others, records, descending⟩ := later
  refine ⟨calls ++ others, first.trans (records.lift (.under link .self)), ?_⟩
  rcases own with rfl | ⟨data, rfl⟩
  · exact descending
  · refine List.pairwise_cons.mpr ⟨?_, descending⟩
    intro call member
    have path := records.below_of_mem member
    refine ⟨path.of_link link, ?_⟩
    intro same
    rw [show call.1 = scope from same] at path
    exact Forest.not_below_parent link path

theorem CallsDown.of_records {calls : List (Fin n × RouteData)}
    (records : RecordsBelow forest scope calls world after)
    (own : calls = [] ∨ ∃ data, calls = [(scope, data)]) : CallsDown forest scope world after := by
  refine ⟨calls, records, ?_⟩
  rcases own with rfl | ⟨data, rfl⟩
  · exact .nil
  · exact List.pairwise_singleton _ _

/-- What is recorded while a match is handled is about scopes below its own. -/
theorem Handled.callsDown {handle : Fin n → Request → World n ν → Option (Evaluation n × World n ν)}
    (mounts : router.MountsWithin forest) (inTable : InTable router found)
    (linked : world.Linked forest)
    (below : ∀ {child : Fin n} {request : Request} {world after : World n ν}
      {evaluation : Evaluation n}, world.Linked forest →
        handle child request world = some (evaluation, after) → CallsDown forest child world after)
    (handled : Handled router handle found request world evaluation after) :
    CallsDown forest found.scope world after := by
  have own : ∀ data, (if world.isUnchanged router found data then [] else [(found.scope, data)]) =
      ([] : List (Fin n × RouteData)) ∨
      ∃ known, (if world.isUnchanged router found data then [] else [(found.scope, data)]) =
        [(found.scope, known)] := by
    intro data
    cases world.isUnchanged router found data with
    | true => exact .inl rfl
    | false => exact .inr ⟨data, rfl⟩
  cases handled with
  | unreadable _ => exact .of_records (.of_same_trace rfl) (.inl rfl)
  | failed _ call => exact .of_records (call_records mounts inTable call) (own _)
  | passed _ call cascade =>
    have called_linked := (linked_of_call mounts inTable linked call).1
    have upTo := (call_records mounts inTable call).trans
      (clear_records called_linked router found.id)
    rw [List.append_nil] at upTo
    rcases cascade_cases cascade with ⟨_, _, rfl⟩ | ⟨child, evaluation, goes, handled, _⟩
    · exact .of_records (upTo.trans (.of_same_trace rfl)) (by simpa using own _)
    · have cleared := (clear_contained router found.id called_linked).linked
      have through := CallsDown.behind_call upTo (own _) (upward_of_goesOn called_linked goes)
        (below cleared handled)
      exact through

theorem handle_callsDown (mounts : router.MountsWithin forest) {fuel : Nat}
    (linked : world.Linked forest)
    (h : world.handle router fuel scope request = some (evaluation, after)) :
    CallsDown forest scope world after := by
  induction fuel generalizing scope request world evaluation after with
  | zero => cases h
  | succ fuel ih =>
    obtain ⟨less, same, ⟨_, _, rfl⟩ | ⟨found, search, handled⟩⟩ := handle_cases h
    · exact .of_records (.of_same_trace rfl) (.inl rfl)
    · cases same
      obtain ⟨calls, records, descending⟩ := handled.callsDown mounts (inTable_of_search search)
        linked fun linked handled => ih linked handled
      exact ⟨calls, records.lift (below_of_searchWith linked search), descending⟩

/-- The scope that is found owns what happens. -/
theorem owned_of_handle (mounts : router.MountsWithin forest) {fuel : Nat}
    (linked : world.Linked forest)
    (h : world.handle router fuel scope request = some (evaluation, after)) :
    (world.search router request.cursor scope = some none ∧ after = world) ∨
      ∃ found, world.search router request.cursor scope = some (some found) ∧
        (request.cursor.relative = true → found.scope = scope) ∧
        SameOutside forest found.scope world after ∧
        CallsDown forest found.scope world after := by
  obtain ⟨less, _, ⟨search, _, same⟩ | ⟨found, search, handled⟩⟩ := handle_cases h
  · exact .inl ⟨search, same⟩
  · have inTable := inTable_of_search search
    refine .inr ⟨found, search, fun relative => scope_of_search relative search, ?_, ?_⟩
    · exact (handled.contained mounts inTable linked
        fun _ linked handled => handle_contained mounts linked handled).outside
    · exact handled.callsDown mounts inTable linked
        fun linked handled => handle_callsDown mounts linked handled

end World

open World

/-- If scopes have fixed parents and handlers only mount, every evaluation ends. Without a match it
changes nothing. Otherwise only the scope that has the match and those below it change, all hooks
and handlers that run are theirs, and each handler runs once and before those further down. A
relative URL is matched on its own scope, so that nothing above this scope or beside it changes. -/
theorem evaluation_stays_below_owner {world : World n ν} (mounts : router.MountsWithin forest)
    (reachable : world.Reachable forest) {fuel : Nat} (enough : n ≤ fuel) (scope : Fin n)
    (url : String) (defaults : Values) :
    ∃ evaluation after start request,
      world.eval router fuel scope url defaults = some (evaluation, after) ∧
      world.locate router scope url defaults = some (start, request) ∧
      ((world.search router request.cursor start = some none ∧ after = world) ∨
        ∃ found, world.search router request.cursor start = some (some found) ∧
          (((router.get scope).config.pathOf url).relative = true → found.scope = scope) ∧
          SameOutside forest found.scope world after ∧
          CallsDown forest found.scope world after) ∧
      (((router.get scope).config.pathOf url).relative = true → ∀ other, other ≠ scope →
        Below forest.upward other scope ∨ forest.upward other = forest.upward scope →
          after.node other = world.node other) := by
  have linked := reachable.linked
  obtain ⟨evaluation, after, h⟩ := exists_eval mounts enough linked scope url defaults
  obtain ⟨start, request, located, handled⟩ := eval_eq_some_iff.mp h
  have owned := owned_of_handle mounts linked handled
  have here : ((router.get scope).config.pathOf url).relative = true →
      start = scope ∧ request.cursor.relative = true := by
    intro relative
    rw [locate_of_relative relative] at located
    cases located
    exact ⟨rfl, rfl⟩
  refine ⟨evaluation, after, start, request, h, located, ?_, ?_⟩
  · refine owned.imp_right ?_
    rintro ⟨found, search, own, outside, calls⟩
    refine ⟨found, search, fun relative => ?_, outside, calls⟩
    exact (own (here relative).2).trans (here relative).1
  · intro relative other different beside
    rw [(here relative).1] at handled
    apply (handle_contained mounts linked handled).outside
    rcases beside with above | same
    · exact fun down => different (Forest.below_antisymm above down)
    · exact Forest.not_below_of_same_parent different same

/-- The items of the sample are asked for others, and the page does not change. -/
theorem evaluation_stays_below_owner_in_areas :
    ∃ (world after : World 2 Unit) (evaluation : Evaluation 2), world.Reachable areasForest ∧
      world.eval areas 2 1 "./view/2" .empty = some (evaluation, after) ∧
      (world.node 0).state.current.map RouteData.path = some "/a/" ∧
      after.node 0 = world.node 0 ∧ after.node 1 ≠ world.node 1 := by
  have facts : (World.initial.eval areas 2 0 "/a/view/1" .empty).bind (fun first =>
      (first.2.eval areas 2 1 "./view/2" .empty).map fun second =>
        ((first.2.node 0).state.current.map RouteData.path,
          [first.2.node 1, second.2.node 1].map fun node =>
            node.state.current.map RouteData.path)) =
      some (some "/a/", [some "/view/1/", some "/view/2/"]) := by
    decide +kernel
  obtain ⟨⟨_, world⟩, visited, facts⟩ := Option.bind_eq_some_iff.mp facts
  obtain ⟨⟨again, last⟩, moved, facts⟩ := Option.map_eq_some_iff.mp facts
  simp only [Prod.mk.injEq, List.map_cons, List.cons.injEq] at facts
  obtain ⟨page, first, second, _⟩ := facts
  have reachable : world.Reachable areasForest := .evaluated areas_mountsWithin .initial visited
  obtain ⟨evaluation, after, _, _, h, _, _, beside⟩ := evaluation_stays_below_owner
    areas_mountsWithin reachable (Nat.le_refl 2) 1 "./view/2" .empty
  cases h.symm.trans moved
  refine ⟨world, last, again, reachable, h, page, ?_, ?_⟩
  · exact beside (by decide +kernel) 0 (by decide) (.inl (.under rfl .self))
  · intro same
    rw [same, first] at second
    exact absurd second (by decide)

end ScopedRouting
