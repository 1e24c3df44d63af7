import ScopedRouting.Scope.Evaluation

/-!
# What one evaluation step can do

A step finds a match or none. A match is unreadable, or its handler fails, or it passes: then the
stale children are deactivated, at most one child is handed the rest, and the match is committed
last. Everything that is proved of evaluations goes through these cases.
-/
namespace ScopedRouting.World

variable {n : Nat} {ν : Type} {router : Router n ν}

theorem findSomeM?_cons_none {α β : Type} {f : α → Option (Option β)} {a : α} {rest : List α}
    (h : f a = some none) : (a :: rest).findSomeM? f = rest.findSomeM? f := by
  simp [List.findSomeM?, h]

theorem findSomeM?_cons_some {α β : Type} {f : α → Option (Option β)} {a : α} {b : β}
    {rest : List α} (h : f a = some (some b)) : (a :: rest).findSomeM? f = some (some b) := by
  simp [List.findSomeM?, h]

theorem findSomeM?_cons_cases {α β : Type} {f : α → Option (Option β)} {a : α}
    {rest : List α} {b : Option β} (h : (a :: rest).findSomeM? f = some b) :
    (∃ x, f a = some (some x) ∧ b = some x) ∨ (f a = some none ∧ rest.findSomeM? f = some b) := by
  cases first : f a with
  | none => simp [List.findSomeM?, first] at h
  | some answer =>
    cases answer with
    | none => exact .inr ⟨rfl, (findSomeM?_cons_none first).symm.trans h⟩
    | some x =>
      rw [findSomeM?_cons_some first] at h
      exact .inl ⟨x, rfl, (Option.some.inj h).symm⟩

theorem exists_of_findSomeM? {α β : Type} {f : α → Option (Option β)} {list : List α} {b : β}
    (h : list.findSomeM? f = some (some b)) : ∃ a ∈ list, f a = some (some b) := by
  induction list with
  | nil => cases h
  | cons a rest ih =>
    rcases findSomeM?_cons_cases h with ⟨x, first, same⟩ | ⟨_, later⟩
    · cases same
      exact ⟨a, List.mem_cons_self, first⟩
    · obtain ⟨found, member, here⟩ := ih later
      exact ⟨found, List.mem_cons_of_mem a member, here⟩

theorem findSomeM?_congr {α β : Type} {f g : α → Option (Option β)} {list : List α}
    (same : ∀ a ∈ list, f a = g a) : list.findSomeM? f = list.findSomeM? g := by
  induction list with
  | nil => rfl
  | cons a rest ih =>
    rw [List.findSomeM?, List.findSomeM?, same a List.mem_cons_self,
      ih fun b member => same b (List.mem_cons_of_mem a member)]

/-- What is found is the first entry of its table that matches. -/
theorem find?_of_searchWith {cursor : Cursor} {world : World n ν} {fuel : Nat} {scope : Fin n}
    {found : Found n ν} (h : world.searchWith router cursor fuel scope = some (some found)) :
    (router.get found.scope).table.find? cursor = some (found.entry, found.place) := by
  induction fuel generalizing scope with
  | zero => cases h
  | succ fuel ih =>
    rw [searchWith] at h
    split at h
    · rename_i entry place first
      cases h
      exact first
    · split at h
      · cases h
      · obtain ⟨child, _, below⟩ := exists_of_findSomeM? h
        exact ih below

/-- A relative cursor is only matched against the table of the scope itself. -/
theorem search_relative {cursor : Cursor} (relative : cursor.relative = true) (world : World n ν)
    (scope : Fin n) :
    world.search router cursor scope = some (((router.get scope).table.find? cursor).map
      fun first => ⟨scope, first.1, first.2⟩) := by
  cases n with
  | zero => exact scope.elim0
  | succ n =>
    simp only [search, searchWith, relative, if_true]
    cases (router.get scope).table.find? cursor <;> rfl

theorem scope_of_search {cursor : Cursor} (relative : cursor.relative = true) {world : World n ν}
    {scope : Fin n} {found : Found n ν}
    (h : world.search router cursor scope = some (some found)) : found.scope = scope := by
  rw [search_relative relative] at h
  obtain ⟨_, _, rfl⟩ := Option.map_eq_some_iff.mp (Option.some.inj h)
  rfl

theorem accepts_of_find? {η : Type} {table : Table η} {cursor : Cursor} {entry : Entry η}
    {place : Nat} (h : table.find? cursor = some (entry, place)) :
    entry ∈ table.entries ∧ entry.route.accepts cursor = true := by
  unfold Table.find? at h
  have member := List.mem_of_find?_eq_some h
  have matched := List.find?_some h
  exact ⟨(List.mem_zipIdx' member).2 ▸ List.getElem_mem _, matched⟩

/-- A handler is left out where nothing has changed, and invoked otherwise. -/
theorem call_cases {navigate : Fin n → String → World n ν → Option (Outcome × World n ν)}
    {found : Found n ν} {data : RouteData} {succeeded : Bool} {world called : World n ν}
    (call : world.call router navigate found data = some (succeeded, called)) :
    (world.isUnchanged router found data = true ∧ succeeded = true ∧ called = world) ∨
      (world.isUnchanged router found data = false ∧
        world.invoke router navigate found data = some (succeeded, called)) := by
  unfold World.call at call
  split at call
  · rename_i unchanged
    cases call
    exact .inl ⟨unchanged, rfl, rfl⟩
  · rename_i changed
    exact .inr ⟨Bool.eq_false_iff.mpr changed, call⟩

/-- What can become of a match. -/
inductive Handled (router : Router n ν)
    (handle : Fin n → Request → World n ν → Option (Evaluation n × World n ν))
    (found : Found n ν) (request : Request) (world : World n ν) :
    Evaluation n → World n ν → Prop
  | unreadable {error : RouteError} {cursor : Cursor}
      (read : found.entry.route.readValues request.cursor = (.error error, cursor)) :
      Handled router handle found request world (.failed .unreadableValues) world
  | failed {own : Values} {cursor : Cursor} {called : World n ν}
      (read : found.entry.route.readValues request.cursor = (.ok own, cursor))
      (call : world.call router (navigateWith router handle) found
        (found.data router request own cursor) = some (false, called)) :
      Handled router handle found request world (.failed .handlerFailed) called
  | passed {own : Values} {cursor : Cursor} {called cascaded : World n ν} {below : List (Step n)}
      (read : found.entry.route.readValues request.cursor = (.ok own, cursor))
      (call : world.call router (navigateWith router handle) found
        (found.data router request own cursor) = some (true, called))
      (cascade : called.cascade router handle found.id
        (request.behind (found.data router request own cursor) cursor) = some (below, cascaded)) :
      Handled router handle found request world
        ⟨.success cursor.sourcePath (found.data router request own cursor).query,
          ⟨found.id, request.root, request.cursor.position, cursor.position,
            found.data router request own cursor,
            !world.isUnchanged router found (found.data router request own cursor)⟩ :: below⟩
        (cascaded.commit found.scope (found.data router request own cursor) request.root)

theorem handleMatched_eq_some_iff
    {handle : Fin n → Request → World n ν → Option (Evaluation n × World n ν)}
    {found : Found n ν} {request : Request} {world after : World n ν}
    {evaluation : Evaluation n} :
    world.handleMatched router handle found request = some (evaluation, after) ↔
      Handled router handle found request world evaluation after := by
  constructor
  · intro h
    unfold handleMatched at h
    split at h
    · rename_i read
      cases h
      exact .unreadable read
    · rename_i own cursor read
      obtain ⟨⟨succeeded, called⟩, call, h⟩ := Option.bind_eq_some_iff.mp h
      cases succeeded with
      | false =>
        cases h
        exact .failed read call
      | true =>
        obtain ⟨⟨below, cascaded⟩, cascade, h⟩ := Option.bind_eq_some_iff.mp h
        cases h
        exact .passed read call cascade
  · intro h
    cases h with
    | unreadable read => simp only [handleMatched, read]
    | failed read call =>
      simp only [handleMatched, read, call, Option.bind_eq_bind, Option.bind_some]
      rfl
    | passed read call cascade =>
      simp only [handleMatched, read, call, Option.bind_eq_bind, Option.bind_some, cascade]
      rfl

/-- A step that ends has found nothing, or has handled what it found. -/
theorem handle_cases {fuel : Nat} {scope : Fin n} {request : Request} {world after : World n ν}
    {evaluation : Evaluation n}
    (h : world.handle router fuel scope request = some (evaluation, after)) :
    ∃ less, fuel = less + 1 ∧
      ((world.search router request.cursor scope = some none ∧
          evaluation = .failed (.noMatch request.cursor.remainingPath) ∧ after = world) ∨
        ∃ found, world.search router request.cursor scope = some (some found) ∧
          Handled router (handle router less) found request world evaluation after) := by
  cases fuel with
  | zero => cases h
  | succ fuel =>
    refine ⟨fuel, rfl, ?_⟩
    obtain ⟨answer, search, h⟩ := Option.bind_eq_some_iff.mp h
    cases answer with
    | none =>
      cases h
      exact .inl ⟨search, rfl, rfl⟩
    | some found => exact .inr ⟨found, search, handleMatched_eq_some_iff.mp h⟩

theorem handle_of_search_none {fuel : Nat} {scope : Fin n} {request : Request} {world : World n ν}
    (search : world.search router request.cursor scope = some none) :
    world.handle router (fuel + 1) scope request =
      some (.failed (.noMatch request.cursor.remainingPath), world) := by
  simp only [handle, search, Option.bind_eq_bind, Option.bind_some]
  rfl

theorem handle_of_search_some {fuel : Nat} {scope : Fin n} {request : Request}
    {world : World n ν} {found : Found n ν}
    (search : world.search router request.cursor scope = some (some found)) :
    world.handle router (fuel + 1) scope request =
      world.handleMatched router (handle router fuel) found request := by
  simp only [handle, search, Option.bind_eq_bind, Option.bind_some]

/-- A cascade ends with the stale children deactivated, or goes on with one child. -/
theorem cascade_cases {handle : Fin n → Request → World n ν → Option (Evaluation n × World n ν)}
    {matched : RouteId n} {request : Request} {world after : World n ν} {below : List (Step n)}
    (h : world.cascade router handle matched request = some (below, after)) :
    ((world.plan matched).continueWith = none ∧ below = [] ∧
        after = world.deactivateAll router (world.plan matched).deactivate) ∨
      ∃ child evaluation, (world.plan matched).continueWith = some child ∧
        handle child request (world.deactivateAll router (world.plan matched).deactivate) =
          some (evaluation, after) ∧
        below = evaluation.steps := by
  unfold cascade at h
  dsimp only at h
  split at h
  · rename_i ends
    cases h
    exact .inl ⟨ends, rfl, rfl⟩
  · rename_i child goes
    obtain ⟨⟨evaluation, last⟩, handled, h⟩ := Option.bind_eq_some_iff.mp h
    cases h
    exact .inr ⟨child, evaluation, goes, handled, rfl⟩

theorem eval_eq_some_iff {fuel : Nat} {scope : Fin n} {url : String} {defaults : Values}
    {world after : World n ν} {evaluation : Evaluation n} :
    world.eval router fuel scope url defaults = some (evaluation, after) ↔
      ∃ owner request, world.locate router scope url defaults = some (owner, request) ∧
        world.handle router fuel owner request = some (evaluation, after) := by
  unfold eval evalWith
  rw [Option.bind_eq_bind, Option.bind_eq_some_iff]
  constructor
  · rintro ⟨⟨owner, request⟩, located, handled⟩
    exact ⟨owner, request, located, handled⟩
  · rintro ⟨owner, request, located, handled⟩
    exact ⟨(owner, request), located, handled⟩

end ScopedRouting.World
