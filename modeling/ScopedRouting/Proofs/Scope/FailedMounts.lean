import ScopedRouting.Proofs.Scope.Alternation
import ScopedRouting.Proofs.Scope.Reach

/-!
# Mounts that fail

A mount first enters the links and then runs the activate hooks, and what the hooks report does not
take the links back. So a scope whose hooks have failed is mounted like any other. Mounting it
again only changes its route, until it has been taken off the list of its parent.
-/
namespace ScopedRouting

variable {n : Nat} {ν : Type} {router : Router n ν}

/-- Whether a change takes a scope off the list of another: it deactivates the scope while it has
this parent, or it deactivates the other. -/
def Moment.TakesOff (moment : Moment n ν) (parent child : Fin n) : Prop :=
  (moment.change = .deactivated child ∧ (moment.world.node child).parent = some parent) ∨
    moment.Deactivates parent

namespace World

variable {world after : World n ν} {parent child : Fin n} {route : RouteId n}

/-- What the first mount of a scope below another does, whatever the hooks of the scope report. -/
structure NewlyMounted (router : Router n ν) (parent child : Fin n) (route : RouteId n)
    (world after : World n ν) : Prop where
  mounted : after.node child =
    { world.node child with parent := some parent, mountedOn := some route }
  listed : after.node parent =
    { world.node parent with children := (world.node parent).children ++ [child] }
  others : ∀ other, other ≠ child → other ≠ parent → after.node other = world.node other
  trace : after.trace = world.trace ++ router.batch .activate child

theorem activate_of_listed (different : child ≠ parent)
    (listed : child ∈ (world.node parent).children) :
    world.activate router parent child route = (world.update child fun node =>
      { node with parent := some parent, mountedOn := some route }, .ok ()) := by
  simp [activate, different.symm, listed]

theorem newlyMounted_activate (router : Router n ν) (different : child ≠ parent)
    (unlisted : child ∉ (world.node parent).children) (route : RouteId n) :
    NewlyMounted router parent child route world
      (world.activate router parent child route).1 := by
  refine ⟨?_, ?_, ?_, ?_⟩
  · simp [node_activate different]
  · simp [node_activate different, different.symm, unlisted]
  · intro other apart above
    simp [node_activate different, apart, above]
  · simp [different, unlisted]

/-- The result of a first mount is what the activate hooks report. -/
theorem result_of_unlisted (different : child ≠ parent)
    (unlisted : child ∉ (world.node parent).children) (route : RouteId n) :
    (world.activate router parent child route).2 =
      (router.failedBatch? .activate child).elim (.ok ()) fun batch => .error (.hooks batch) := by
  simp [activate, different.symm, unlisted, runHooks_eq]

theorem not_listed_of_takesOff {moment : Moment n ν} (leads : moment.LeadsTo router after)
    (taken : moment.TakesOff parent child) : child ∉ (after.node parent).children := by
  rcases taken with ⟨change, upper⟩ | deactivates
  · obtain ⟨inside, outside⟩ := node_deactivate router child parent moment.world
    rw [leads.eq_deactivate change]
    by_cases reached : moment.world.ReachesDown child parent
    · rw [inside reached]
      exact List.not_mem_nil
    · rw [outside reached, children_detach, if_pos upper]
      simp
  · rw [leads.node_of_deactivates deactivates]
    exact List.not_mem_nil

/-- Nothing else takes a scope off a list. -/
theorem listed_of_not_takesOff {moment : Moment n ν} (leads : moment.LeadsTo router after)
    (left : ¬ moment.TakesOff parent child)
    (listed : child ∈ (moment.world.node parent).children) :
    child ∈ (after.node parent).children := by
  cases leads with
  | noted _ _ => exact listed
  | mounted world upper lower route =>
    by_cases same : lower = upper
    · simpa [same] using listed
    · exact (mem_children_activate same route parent child).mpr (.inl listed)
  | deactivated world top =>
    have outside : ¬ world.ReachesDown top parent := fun reached => left (.inr ⟨top, rfl, reached⟩)
    rw [(node_deactivate router top parent world).2 outside, children_detach]
    split
    · rename_i upper
      refine List.mem_filter.mpr ⟨listed, decide_eq_true ?_⟩
      rintro rfl
      exact left (.inl ⟨rfl, upper⟩)
    · exact listed
  | called _ _ _ => exact listed
  | skipped _ _ _ => exact listed
  | committed world step =>
    simpa using listed

theorem Passes.listed {routers : Set (Router n ν)} {moments : List (Moment n ν)}
    (passes : world.Passes routers moments after)
    (left : ∀ moment ∈ moments, ¬ moment.TakesOff parent child)
    (listed : child ∈ (world.node parent).children) : child ∈ (after.node parent).children :=
  (passes.throughout_of_allowed (fun leads left listed => listed_of_not_takesOff leads left listed)
    left listed).2

end World

open World

/-- A mount that fails is one of a scope below itself, which changes nothing, or the scope was not
on the list of its parent yet and one of its activate hooks fails. Then the mount stands all the
same: the scope has the parent and the route, the parent lists it, and its hooks have all run.
Whatever happens from then on, and whatever has become of the hooks, as long as nothing takes the
scope off the list, mounting it again succeeds, changes its parent link and its route and runs no
hook. Right behind a change that takes it off the list, mounting it runs the hooks again, and the
result is what they report this time. -/
theorem failed_mount_stands {router : Router n ν} {world after : World n ν} {parent child : Fin n}
    {route : RouteId n} {error : MountError}
    (h : world.activate router parent child route = (after, .error error)) :
    (child = parent ∧ error = .ownChild (router.get parent).name ∧ after = world) ∨
    ∃ batch, child ≠ parent ∧ child ∉ (world.node parent).children ∧
      router.failedBatch? .activate child = some batch ∧ error = .hooks batch ∧
      NewlyMounted router parent child route world after ∧
      (∀ moments later again, ∀ present : Router n ν, after.Passes Set.univ moments later →
        (∀ moment ∈ moments, ¬ moment.TakesOff parent child) →
        later.activate present parent child again = (later.update child fun node =>
          { node with parent := some parent, mountedOn := some again }, .ok ())) ∧
      ∀ moments moment later again, ∀ present : Router n ν,
        after.Passes Set.univ (moments ++ [moment]) later → moment.TakesOff parent child →
        NewlyMounted present parent child again later
            (later.activate present parent child again).1 ∧
          (later.activate present parent child again).2 =
            (present.failedBatch? .activate child).elim (.ok ()) fun batch =>
              .error (.hooks batch) := by
  obtain ⟨rfl, result⟩ := Prod.ext_iff.mp h
  by_cases different : child = parent
  · subst different
    rw [activate, if_pos rfl] at result ⊢
    exact .inl ⟨rfl, (Except.error.inj result).symm, rfl⟩
  · right
    by_cases listed : child ∈ (world.node parent).children
    · rw [activate_of_listed different listed] at result
      cases result
    · rw [result_of_unlisted different listed] at result
      cases fails : router.failedBatch? .activate child with
      | none =>
        rw [fails] at result
        cases result
      | some batch =>
        rw [fails] at result
        have mounted := newlyMounted_activate router different listed route
        have entered :
            child ∈ ((world.activate router parent child route).1.node parent).children := by
          rw [mounted.listed]
          exact List.mem_append_right _ (List.mem_singleton_self child)
        refine ⟨batch, different, listed, rfl, (Except.error.inj result).symm, mounted, ?_, ?_⟩
        · intro moments later again present passes left
          exact activate_of_listed different (passes.listed left entered)
        · intro moments moment later again present passes taken
          obtain ⟨_, _, _, next, leads, rest⟩ := passes.upTo
          cases rest
          have gone := not_listed_of_takesOff leads taken
          exact ⟨newlyMounted_activate present different gone again,
            result_of_unlisted different gone again⟩

/-- A sample: the activate hook of the second scope fails while the scope is busy. -/
def serving (busy : Bool) : Router 2 Nat :=
  Vector.ofFn fun scope =>
    { name := s!"scope {scope.val}", config := { baseUrl := "app:/" }, table := ⟨[]⟩
      invoker := .direct, ambient := .empty
      hooks := [fun phase _ => ⟨[scope.val],
        if busy = true ∧ scope.val = 1 ∧ phase = .activate then some ⟨["busy"]⟩ else none⟩] }

/-- The mount fails, and mounting again succeeds. Behind a deactivation it fails once more if the
scope is still busy, and succeeds otherwise. -/
theorem failed_mount_stands_while_busy :
    ∃ after batch, (World.initial : World 2 Nat).activate (serving true) 0 1 ⟨0, 0⟩ =
        (after, .error (.hooks batch)) ∧
      batch.message = "1 activate hook(s) failed for scope \x60scope 1\x60: busy" ∧
      (after.node 0).children = [1] ∧ (after.node 1).parent = some 0 ∧
      (after.activate (serving true) 0 1 ⟨0, 1⟩).2 = .ok () ∧
      (after.activate (serving true) 0 1 ⟨0, 1⟩).1.trace = after.trace ∧
      ((after.deactivate (serving true) 1).1.activate (serving true) 0 1 ⟨0, 1⟩).2 =
        .error (.hooks batch) ∧
      ((after.deactivate (serving true) 1).1.activate (serving false) 0 1 ⟨0, 1⟩).2 = .ok () := by
  have reports : (serving true).failedBatch? .activate 1 =
        some ⟨.activate, "scope 1", [⟨["busy"]⟩]⟩ ∧
      (serving false).failedBatch? .activate 1 = none := by
    decide
  have facts : ((World.initial : World 2 Nat).activate (serving true) 0 1 ⟨0, 0⟩).2 =
      .error (.hooks ⟨.activate, "scope 1", [⟨["busy"]⟩]⟩) := by
    decide
  have h := Prod.ext_iff.mpr ⟨rfl, facts⟩
  have start : ∀ scope : Fin 2, (World.initial : World 2 Nat).node scope = {} := node_initial
  rcases failed_mount_stands h with
    ⟨same, _, _⟩ | ⟨batch, _, _, fails, error, stands, again, behind⟩
  · cases same
  · cases error
    have first := again [] _ ⟨0, 1⟩ (serving true) (.nil _) (by simp)
    have parent := congrArg Node.parent stands.mounted
    have taken : Moment.TakesOff ⟨_, .deactivated 1⟩ 0 1 := .inl ⟨rfl, parent⟩
    have off := fun present => (behind [] _ _ ⟨0, 1⟩ present
      (.single (Set.mem_univ (serving true)) (.deactivated _ 1)) taken).2
    refine ⟨_, _, h, by decide, ?_, parent, by rw [first], ?_, ?_, ?_⟩
    · rw [stands.listed, start]
      rfl
    · rw [first]
      rfl
    · rw [off, reports.1]
      rfl
    · rw [off, reports.2]
      rfl

/-- The failed mount has changed both links, and the hooks do not run again. -/
theorem failed_mount_changes_tree :
    ∃ (past : List (Moment 2 Nat)) (world after : World 2 Nat) (error : MountError),
      World.History {serving true} past world ∧
      world.activate (serving true) 0 1 ⟨0, 0⟩ = (after, .error error) ∧
      (after.node 1).parent ≠ (world.node 1).parent ∧
      (after.node 1).mountedOn ≠ (world.node 1).mountedOn ∧
      (after.node 0).children ≠ (world.node 0).children ∧
      (after.activate (serving true) 0 1 ⟨0, 0⟩).1.trace = after.trace := by
  let after := ((World.initial : World 2 Nat).activate (serving true) 0 1 ⟨0, 0⟩).1
  have facts : (after.node 1).parent = some 0 ∧ (after.node 1).mountedOn = some ⟨0, 0⟩ ∧
      (after.node 0).children = [1] ∧
      (after.activate (serving true) 0 1 ⟨0, 0⟩).1.trace = after.trace := by
    decide
  have fails : ((World.initial : World 2 Nat).activate (serving true) 0 1 ⟨0, 0⟩).2 =
      .error (.hooks ⟨.activate, "scope 1", [⟨["busy"]⟩]⟩) := by
    decide
  obtain ⟨parent, mountedOn, children, trace⟩ := facts
  refine ⟨[], .initial, after, _, .initial, Prod.ext_iff.mpr ⟨rfl, fails⟩, ?_, ?_, ?_, trace⟩
  · rw [parent]
    decide
  · rw [mountedOn]
    decide
  · rw [children]
    decide

end ScopedRouting
