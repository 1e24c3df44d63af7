import ScopedRouting.Proofs.Scope.Containment
import ScopedRouting.Proofs.Scope.Teardown

/-!
# Searches and evaluations that end

Give each scope a rank below the number of scopes. If lists only hold scopes of a higher rank, a
search goes down no more often than there are ranks. So does an evaluation, if its handlers only
mount scopes of a higher rank than their own. The depths in a forest are such ranks.
-/
namespace ScopedRouting

/-- Whether a program only mounts below its own scope, and only scopes that it may. -/
def Program.MountsOnly {n : Nat} {ν : Type} (may : Fin n → Prop) : Program n ν → Prop
  | .finish _ => True
  | .note _ next => next.MountsOnly may
  | .mount child next => may child ∧ ∀ result, (next result).MountsOnly may
  | .mountUnder _ _ _ _ => False
  | .deactivate _ _ => False
  | .navigate _ _ _ => False

/-- Whether all handlers only mount, and only scopes of a higher rank than their own. -/
def Router.MountsUp {n : Nat} {ν : Type} (rank : Fin n → Nat) (router : Router n ν) : Prop :=
  ∀ scope, ∀ entry ∈ (router.get scope).table.entries, ∀ context : Context n,
    context.scope = scope → ((router.get scope).invoker entry.handler context).MountsOnly
      fun child => child ≠ scope → rank scope < rank child

variable {n : Nat} {ν : Type} {router : Router n ν} {rank : Fin n → Nat} {forest : Forest n}

theorem Program.MountsOnly.mono {may could : Fin n → Prop} {program : Program n ν}
    (mounts : program.MountsOnly may) (weaker : ∀ child, may child → could child) :
    program.MountsOnly could := by
  induction program with
  | finish _ => trivial
  | note _ _ ih => exact ih mounts
  | mount child _ ih => exact ⟨weaker child mounts.1, fun result => ih result (mounts.2 result)⟩
  | mountUnder _ _ _ _ _ => exact mounts
  | deactivate _ _ _ => exact mounts
  | navigate _ _ _ _ => exact mounts

theorem Router.MountsUp.mono {low : Fin n → Nat} (mounts : router.MountsUp rank)
    (grows : ∀ a b, rank a < rank b → low a < low b) : router.MountsUp low := by
  intro scope entry member context here
  exact (mounts scope entry member context here).mono fun child up other =>
    grows scope child (up other)

theorem Program.MountsBelow.mountsOnly {scope : Fin n} {program : Program n ν}
    (mounts : program.MountsBelow forest scope) :
    program.MountsOnly fun child => child ≠ scope → forest.upward child = some scope := by
  induction program with
  | finish _ => trivial
  | note _ _ ih => exact ih mounts
  | mount child next ih => exact ⟨mounts.1, fun result => ih result (mounts.2 result)⟩
  | mountUnder _ _ _ _ _ => exact mounts
  | deactivate _ _ _ => exact mounts
  | navigate _ _ _ _ => exact mounts

theorem Router.MountsWithin.mountsUp (mounts : router.MountsWithin forest) :
    router.MountsUp forest.depth := by
  intro scope entry member context here
  exact (mounts scope entry member context here).mountsOnly.mono fun child link other =>
    Forest.depth_lt_of_link (link other)

namespace World

variable {world after : World n ν} {scope : Fin n} {request : Request}

/-- Whether lists only hold scopes of a higher rank. -/
def Ranked (rank : Fin n → Nat) (world : World n ν) : Prop :=
  ∀ parent child, child ∈ (world.node parent).children → rank parent < rank child

theorem Linked.ranked (linked : world.Linked forest) : world.Ranked forest.depth := by
  intro parent child member
  exact Forest.depth_lt_of_link (linked.upward_of_mem member)

theorem Ranked.activate (ranked : world.Ranked rank) (router : Router n ν) {parent child : Fin n}
    (up : child ≠ parent → rank parent < rank child) (route : RouteId n) :
    (world.activate router parent child route).1.Ranked rank := by
  by_cases same : child = parent
  · simpa [same] using ranked
  · intro upper lower member
    rcases (mem_children_activate same route upper lower).mp member with listed | ⟨rfl, rfl⟩
    · exact ranked upper lower listed
    · exact up same

theorem Ranked.deactivateAll (ranked : world.Ranked rank) (router : Router n ν)
    (scopes : List (Fin n)) : (world.deactivateAll router scopes).Ranked rank := by
  intro parent child member
  exact ranked parent child (mem_of_mem_deactivateAll member)

end World

open World

/-- A program stays in worlds that every mount it may make leads to again. -/
theorem Program.MountsOnly.staysIn_of_kept {may : Fin n → Prop} {good : World n ν → Prop}
    {route : RouteId n} {program : Program n ν} (mounts : program.MountsOnly may)
    (recorded : ∀ world events, good world → good (world.record events))
    (mounted : ∀ {world child}, may child → good world →
      good (world.activate router route.scope child route).1)
    {world : World n ν} (start : good world) : program.StaysIn good router route world := by
  induction program generalizing world with
  | finish _ => trivial
  | note what next ih => exact ih mounts (recorded world [.noted what] start)
  | mount child next ih =>
    have kept := mounted mounts.1 start
    exact ⟨kept, ih _ (mounts.2 _) kept⟩
  | mountUnder _ _ _ _ _ => exact mounts
  | deactivate _ _ _ => exact mounts
  | navigate _ _ _ _ => exact mounts

theorem Program.MountsOnly.staysIn {route : RouteId n} {program : Program n ν}
    (mounts : program.MountsOnly fun child => child ≠ route.scope → rank route.scope < rank child)
    {world : World n ν} (ranked : world.Ranked rank) :
    program.StaysIn (Ranked rank) router route world :=
  mounts.staysIn_of_kept (fun _ _ ranked => ranked)
    (fun up ranked => ranked.activate router up route) ranked

namespace World

variable {world after : World n ν} {scope : Fin n} {request : Request} {found : Found n ν}

theorem exists_call (mounts : router.MountsUp rank) (inTable : InTable router found)
    (ranked : world.Ranked rank)
    (navigate : Fin n → String → World n ν → Option (Outcome × World n ν)) (data : RouteData) :
    ∃ succeeded called, world.call router navigate found data = some (succeeded, called) ∧
      called.Ranked rank := by
  have stays : CallStaysIn (Ranked rank) router found data world := by
    intro _
    exact (mounts found.scope found.entry inTable ⟨found.id, data⟩ rfl).staysIn ranked
  obtain ⟨succeeded, called, call, called_ranked, _⟩ :=
    call_of_staysIn (Ranked rank) (fun _ _ ranked => ranked) navigate ranked stays
  exact ⟨succeeded, called, call, called_ranked⟩

/-- What is found is of no lower rank than the scope where the search started. -/
theorem Ranked.le_of_searchWith (ranked : world.Ranked rank) {cursor : Cursor} {fuel : Nat}
    (h : world.searchWith router cursor fuel scope = some (some found)) :
    rank scope ≤ rank found.scope := by
  induction fuel generalizing scope with
  | zero => cases h
  | succ fuel ih =>
    rw [searchWith] at h
    split at h
    · cases h
      exact Nat.le_refl _
    · split at h
      · cases h
      · obtain ⟨child, member, below⟩ := exists_of_findSomeM? h
        exact Nat.le_trans (Nat.le_of_lt (ranked scope child member)) (ih below)

theorem exists_findSomeM? {α β : Type} {f : α → Option (Option β)} {list : List α}
    (answers : ∀ a ∈ list, ∃ answer, f a = some answer) :
    ∃ answer, list.findSomeM? f = some answer := by
  induction list with
  | nil => exact ⟨none, rfl⟩
  | cons a rest ih =>
    obtain ⟨answer, first⟩ := answers a List.mem_cons_self
    cases answer with
    | some found => exact ⟨some found, findSomeM?_cons_some first⟩
    | none =>
      rw [findSomeM?_cons_none first]
      exact ih fun other member => answers other (List.mem_cons_of_mem a member)

/-- As much fuel as there are higher ranks is enough for a search. -/
theorem Ranked.exists_searchWith (ranked : world.Ranked rank) (bounded : ∀ scope, rank scope < n)
    (router : Router n ν) (cursor : Cursor) {fuel : Nat} {scope : Fin n}
    (enough : n ≤ fuel + rank scope) :
    ∃ answer, world.searchWith router cursor fuel scope = some answer := by
  induction fuel generalizing scope with
  | zero =>
    have less := bounded scope
    omega
  | succ fuel ih =>
    rw [searchWith]
    split
    · exact ⟨_, rfl⟩
    · split
      · exact ⟨_, rfl⟩
      · apply exists_findSomeM?
        intro child member
        have deeper := ranked scope child member
        exact ih (by omega)

theorem exists_cascade {handle : Fin n → Request → World n ν → Option (Evaluation n × World n ν)}
    {matched : RouteId n} (below : ∀ child ∈ (world.node matched.scope).children,
      ∃ result, handle child request
        (world.deactivateAll router (world.plan matched).deactivate) = some result) :
    ∃ result, world.cascade router handle matched request = some result := by
  unfold cascade
  dsimp only
  split
  · exact ⟨_, rfl⟩
  · rename_i child goes
    obtain ⟨result, handled⟩ := below child (mem_of_goesOn goes).1
    exact ⟨_, by rw [handled]; rfl⟩

/-- As much fuel as there are higher ranks is enough for an evaluation step. -/
theorem Ranked.exists_handle (mounts : router.MountsUp rank) (bounded : ∀ scope, rank scope < n)
    {fuel : Nat} {scope : Fin n} (ranked : world.Ranked rank) (enough : n ≤ fuel + rank scope) :
    ∃ result, world.handle router fuel scope request = some result := by
  induction fuel generalizing scope request world with
  | zero =>
    have less := bounded scope
    omega
  | succ fuel ih =>
    obtain ⟨answer, search⟩ := ranked.exists_searchWith bounded router request.cursor
      (Nat.le_add_right n (rank scope))
    cases answer with
    | none => exact ⟨_, handle_of_search_none search⟩
    | some found =>
      have inTable := inTable_of_search search
      have deep := ranked.le_of_searchWith search
      rw [handle_of_search_some search, handleMatched]
      split
      · exact ⟨_, rfl⟩
      · rename_i own cursor read
        obtain ⟨succeeded, called, call, called_ranked⟩ := exists_call mounts inTable ranked
          (navigateWith router (handle router fuel)) (found.data router request own cursor)
        simp only [call, Option.bind_eq_bind, Option.bind_some]
        cases succeeded with
        | false => exact ⟨_, rfl⟩
        | true =>
          obtain ⟨result, cascade⟩ : ∃ result, called.cascade router (handle router fuel) found.id
              (request.behind (found.data router request own cursor) cursor) = some result := by
            apply exists_cascade
            intro child member
            have deeper := called_ranked found.scope child member
            exact ih (called_ranked.deactivateAll router _) (by omega)
          exact ⟨_, by rw [cascade]; rfl⟩

theorem climb?_of_root {fuel : Nat} {scope : Fin n} (root : (world.node scope).parent = none) :
    world.climb? fuel scope = some scope := by
  unfold climb?
  rw [root]

theorem climb?_of_parent {fuel : Nat} {scope parent : Fin n}
    (upper : (world.node scope).parent = some parent) :
    world.climb? (fuel + 1) scope = world.climb? fuel parent := by
  conv => lhs; unfold climb?
  rw [upper]

/-- Where parents are of a lower rank, the way up ends at a scope without a parent. -/
theorem exists_root (bounded : ∀ scope, rank scope < n)
    (lower : ∀ parent child, (world.node child).parent = some parent → rank parent < rank child)
    (scope : Fin n) :
    ∃ top, world.root? scope = some top ∧ (world.node top).parent = none := by
  have climbs : ∀ {fuel : Nat} {scope : Fin n}, rank scope ≤ fuel →
      ∃ top, world.climb? fuel scope = some top ∧ (world.node top).parent = none := by
    intro fuel
    induction fuel with
    | zero =>
      intro scope enough
      cases upper : (world.node scope).parent with
      | none => exact ⟨scope, climb?_of_root upper, upper⟩
      | some parent =>
        have higher := lower parent scope upper
        omega
    | succ fuel ih =>
      intro scope enough
      cases upper : (world.node scope).parent with
      | none => exact ⟨scope, climb?_of_root upper, upper⟩
      | some parent =>
        have higher := lower parent scope upper
        have enough_left : rank parent ≤ fuel := by omega
        obtain ⟨top, climbed, root⟩ := ih enough_left
        exact ⟨top, (climb?_of_parent upper).trans climbed, root⟩
  exact climbs (Nat.le_of_lt (bounded scope))

theorem exists_locate (router : Router n ν) (linked : world.Linked forest) (scope : Fin n)
    (url : String) (defaults : Values) :
    ∃ located, world.locate router scope url defaults = some located := by
  unfold locate
  dsimp only
  split
  · exact ⟨_, rfl⟩
  · have lower : ∀ parent child, (world.node child).parent = some parent →
        forest.depth parent < forest.depth child := fun _ _ upper =>
      Forest.depth_lt_of_link (linked.upward_of_parent upper)
    obtain ⟨top, climbed, _⟩ := exists_root forest.depth_lt lower scope
    exact ⟨_, by rw [climbed]; rfl⟩

/-- As much fuel as there are scopes is enough for an evaluation. -/
theorem exists_eval (mounts : router.MountsWithin forest) {fuel : Nat} (enough : n ≤ fuel)
    (linked : world.Linked forest) (scope : Fin n) (url : String) (defaults : Values) :
    ∃ evaluation after, world.eval router fuel scope url defaults = some (evaluation, after) := by
  obtain ⟨⟨owner, request⟩, located⟩ := exists_locate router linked scope url defaults
  obtain ⟨⟨evaluation, after⟩, handled⟩ :
      ∃ result, world.handle router fuel owner request = some result :=
    linked.ranked.exists_handle mounts.mountsUp forest.depth_lt (Nat.le_add_right_of_le enough)
  exact ⟨evaluation, after, eval_eq_some_iff.mpr ⟨owner, request, located, handled⟩⟩

end World

end ScopedRouting
