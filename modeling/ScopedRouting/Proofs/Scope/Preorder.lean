import ScopedRouting.Proofs.Scope.Circles
import ScopedRouting.Proofs.Scope.Declared

/-!
# The order of a search

A search from the top asks a scope first and then its active children, each with all that is below
it. Written down in this order, what the scopes declare is one list, as long as the lists of
children go round in no circle, and the search gives the first entry of this list that matches. A
search that starts behind other tokens only asks the scope itself. At the first token no relative
route matches, however deep it stands.
-/
namespace ScopedRouting

variable {n : Nat} {ν : Type} {router : Router n ν}

/-- What a scope declares, in this order. -/
def Router.ownEntries (router : Router n ν) (scope : Fin n) : List (Found n ν) :=
  (router.get scope).table.entries.zipIdx.map fun placed => ⟨scope, placed.1, placed.2⟩

def Found.accepts (cursor : Cursor) (found : Found n ν) : Bool :=
  found.entry.route.accepts cursor

/-- No relative route matches at the first token. -/
theorem Route.not_relative_of_accepts {route : Route} {cursor : Cursor}
    (start : cursor.position = 0) (accepted : route.accepts cursor = true) :
    route.relative = false := by
  have whole : (cursor.remaining == cursor.size) = true := by
    rw [Cursor.remaining, start]
    exact beq_self_eq_true _
  unfold Route.accepts at accepted
  split at accepted
  · cases accepted
  · rw [whole, Bool.and_true] at accepted
    split at accepted
    · cases accepted
    · rename_i not_relative
      exact Bool.eq_false_iff.mpr not_relative

namespace World

section Entries

variable (router : Router n ν)

/-- What a scope declares, and behind it what is declared below its children. -/
def entriesWith (world : World n ν) : (fuel : Nat) → Fin n → List (Found n ν)
  | 0, _ => []
  | fuel + 1, scope =>
    router.ownEntries scope ++ (world.node scope).children.flatMap (entriesWith world fuel)

/-- What is declared from a scope down. Scopes that form no circle are less than `n` deep. -/
def entries (world : World n ν) (scope : Fin n) : List (Found n ν) :=
  world.entriesWith router n scope

end Entries

variable {world : World n ν} {rank : Fin n → Nat} {scope : Fin n} {cursor : Cursor}

theorem find?_ownEntries (router : Router n ν) (cursor : Cursor) (scope : Fin n) :
    (router.ownEntries scope).find? (Found.accepts cursor) =
      ((router.get scope).table.find? cursor).map fun placed => ⟨scope, placed.1, placed.2⟩ :=
  List.find?_map ..

/-- More fuel than there are higher ranks finds no more entries. -/
theorem Ranked.entriesWith_succ (ranked : world.Ranked rank) (bounded : ∀ scope, rank scope < n)
    {fuel : Nat} (enough : n ≤ fuel + rank scope) :
    world.entriesWith router (fuel + 1) scope = world.entriesWith router fuel scope := by
  induction fuel generalizing scope with
  | zero =>
    have less := bounded scope
    omega
  | succ fuel ih =>
    have below : ∀ child ∈ (world.node scope).children,
        world.entriesWith router (fuel + 1) child = world.entriesWith router fuel child := by
      intro child member
      have deeper := ranked scope child member
      exact ih (by omega)
    rw [entriesWith, entriesWith, List.flatMap_congr below]

/-- What is declared from a scope down are its own entries and what is declared from each of its
children down. -/
theorem Acyclic.entries_eq (acyclic : world.Acyclic) (router : Router n ν) (scope : Fin n) :
    world.entries router scope =
      router.ownEntries scope ++ (world.node scope).children.flatMap (world.entries router) := by
  obtain ⟨rank, bounded, ranked⟩ := acyclic_iff_ranked.mp acyclic
  exact (ranked.entriesWith_succ bounded (Nat.le_add_right n (rank scope))).symm

/-- There is one way to write down such lists. -/
theorem Acyclic.eq_entries (acyclic : world.Acyclic) {lists : Fin n → List (Found n ν)}
    (each : ∀ scope, lists scope =
      router.ownEntries scope ++ (world.node scope).children.flatMap lists) :
    lists = world.entries router := by
  obtain ⟨rank, bounded, ranked⟩ := acyclic_iff_ranked.mp acyclic
  have agree : ∀ fuel scope, n ≤ fuel + rank scope → lists scope = world.entries router scope := by
    intro fuel
    induction fuel with
    | zero =>
      intro scope enough
      have less := bounded scope
      omega
    | succ fuel ih =>
      intro scope enough
      have below : ∀ child ∈ (world.node scope).children,
          lists child = world.entries router child := by
        intro child member
        have deeper := ranked scope child member
        exact ih child (by omega)
      rw [each, acyclic.entries_eq, List.flatMap_congr below]
  funext scope
  exact agree n scope (Nat.le_add_right n (rank scope))

theorem findSomeM?_eq_findSome? {α β : Type} {f : α → Option (Option β)} {g : α → Option β}
    {list : List α} (answers : ∀ a ∈ list, f a = some (g a)) :
    list.findSomeM? f = some (list.findSome? g) := by
  rw [findSomeM?_congr answers]
  exact List.findSomeM?_pure

/-- An early end of the search is a first match in the list. -/
theorem Ranked.searchWith_eq (ranked : world.Ranked rank) (bounded : ∀ scope, rank scope < n)
    (absolute : cursor.relative = false) {fuel : Nat} (enough : n ≤ fuel + rank scope) :
    world.searchWith router cursor fuel scope =
      some ((world.entriesWith router fuel scope).find? (Found.accepts cursor)) := by
  induction fuel generalizing scope with
  | zero =>
    have less := bounded scope
    omega
  | succ fuel ih =>
    rw [searchWith, entriesWith, List.find?_append, find?_ownEntries]
    split
    · rename_i entry place own
      rw [own]
      rfl
    · rename_i own
      rw [own, if_neg (by simp [absolute])]
      have below : ∀ child ∈ (world.node scope).children,
          world.searchWith router cursor fuel child =
            some ((world.entriesWith router fuel child).find? (Found.accepts cursor)) := by
        intro child member
        have deeper := ranked scope child member
        exact ih (by omega)
      rw [findSomeM?_eq_findSome? below, ← List.find?_flatMap]
      rfl

theorem search_own_of_relative (relative : cursor.relative = true) (world : World n ν)
    (scope : Fin n) :
    world.search router cursor scope =
      some ((router.ownEntries scope).find? (Found.accepts cursor)) := by
  unfold search
  cases n with
  | zero => exact scope.elim0
  | succ n =>
    rw [searchWith, find?_ownEntries, if_pos relative]
    split
    · rename_i entry place own
      rw [own]
      rfl
    · rename_i own
      rw [own]
      rfl

end World

open World

/-- The list of a search and what the search finds in it. The list of a scope is made up of its own
entries and the lists of its children, and no other lists are. A cursor that is not relative leads
to the first entry of the list that matches, or to none if there is none, and a relative one only
to the scope's own entries. Where no token is taken, what is found is not relative. -/
theorem search_finds_first_in_order {world : World n ν} (acyclic : world.Acyclic) :
    (∀ lists : Fin n → List (Found n ν), lists = world.entries router ↔
      ∀ scope, lists scope =
        router.ownEntries scope ++ (world.node scope).children.flatMap lists) ∧
    ∀ scope cursor,
      (cursor.relative = false → world.search router cursor scope =
        some ((world.entries router scope).find? (Found.accepts cursor))) ∧
      (cursor.relative = true → world.search router cursor scope =
        some ((router.ownEntries scope).find? (Found.accepts cursor))) ∧
      (cursor.position = 0 → ∀ found, world.search router cursor scope = some (some found) →
        found.entry.route.relative = false) := by
  refine ⟨fun lists => ⟨?_, acyclic.eq_entries⟩, fun scope cursor => ⟨?_, ?_, ?_⟩⟩
  · rintro rfl
    exact acyclic.entries_eq router
  · intro absolute
    obtain ⟨rank, bounded, ranked⟩ := acyclic_iff_ranked.mp acyclic
    exact ranked.searchWith_eq bounded absolute (Nat.le_add_right n (rank scope))
  · exact fun relative => search_own_of_relative relative world scope
  · intro start found search
    exact Route.not_relative_of_accepts start (accepts_of_find? (find?_of_searchWith search)).2

/-- A sample: a page of books that shows a book with its reviews and, beside it, the authors. Its
search is not shown. -/
def books : Router 5 Unit :=
  .plain "app:/" fun scope =>
    if scope = 0 then [("/books/*", fun _ => .mount 1 fun _ => .mount 2 fun _ => .finish true)]
    else if scope = 1 then [("~/:title/*", fun _ => .mount 3 fun _ => .finish true)]
    else [("/new", fun _ => .finish true)]

/-- New reviews are found before new authors. The title of a book, which is declared before both,
is relative and is passed over. -/
theorem search_finds_first_in_order_of_books :
    ∃ world : World 5 Unit, world.Acyclic ∧
      (world.entries books 0).map Found.id = [⟨0, 0⟩, ⟨1, 0⟩, ⟨3, 0⟩, ⟨2, 0⟩] ∧
      ∃ found, world.search books (.ofTokens ["new"]) 0 = some (some found) ∧
        found.id = ⟨3, 0⟩ ∧ found.entry.route.relative = false := by
  obtain ⟨world, mounted⟩ : ∃ world : World 5 Unit, world =
      (((World.initial.activate books 0 1 ⟨0, 0⟩).1.activate books 0 2 ⟨0, 0⟩).1.activate books
        1 3 ⟨1, 0⟩).1 := ⟨_, rfl⟩
  have acyclic : world.Acyclic := by
    refine acyclic_iff_ranked.mpr ⟨fun scope => scope.val, fun scope => scope.isLt, ?_⟩
    rw [mounted]
    unfold Ranked
    decide
  have facts : ((world.entries books 0).map Found.id,
      ((world.entries books 0).find? (Found.accepts (.ofTokens ["new"]))).map Found.id) =
      ([⟨0, 0⟩, ⟨1, 0⟩, ⟨3, 0⟩, ⟨2, 0⟩], some ⟨3, 0⟩) := by
    rw [mounted]
    decide
  obtain ⟨listed, first⟩ := Prod.mk.inj facts
  obtain ⟨found, first, id⟩ := Option.map_eq_some_iff.mp first
  obtain ⟨absolute, _, relative⟩ :=
    (search_finds_first_in_order acyclic).2 0 (.ofTokens ["new"])
  have search := absolute rfl
  rw [first] at search
  exact ⟨world, acyclic, listed, found, search, id, relative rfl found search⟩

end ScopedRouting
