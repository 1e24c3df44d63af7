import ScopedRouting.Proofs.Scope.Deactivation

/-!
# Handlers that only mount

Mounting a scope makes it a child of the scope that mounts it and changes nothing else but lists
and mount routes. A program that only mounts always runs to its end. Whatever it does, every other
scope keeps its node or has become a child.
-/
namespace ScopedRouting

variable {n : Nat} {ν : Type} {router : Router n ν} {forest : Forest n}

namespace World

variable {world : World n ν}

theorem node_activate {parent child : Fin n} (different : child ≠ parent) (route : RouteId n)
    (other : Fin n) :
    (world.activate router parent child route).1.node other =
      if other = child then
        { world.node child with parent := some parent, mountedOn := some route }
      else if other = parent then
        { world.node parent with children :=
            if child ∈ (world.node parent).children then (world.node parent).children
            else (world.node parent).children ++ [child] }
      else world.node other := by
  have apart := different.symm
  by_cases listed : child ∈ (world.node parent).children
  · by_cases mine : other = child
    · simp [activate, apart, listed, mine]
    · by_cases upper : other = parent <;> simp [activate, apart, listed, mine, upper]
  · by_cases mine : other = child
    · simp [activate, apart, different, listed, mine]
    · by_cases upper : other = parent <;> simp [activate, apart, listed, mine, upper]

@[simp]
theorem activate_self (scope : Fin n) (route : RouteId n) :
    (world.activate router scope scope route).1 = world := by
  rw [activate, if_pos rfl]

@[simp]
theorem parent_activate {parent child : Fin n} (different : child ≠ parent) (route : RouteId n)
    (other : Fin n) :
    ((world.activate router parent child route).1.node other).parent =
      if other = child then some parent else (world.node other).parent := by
  have apart := different.symm
  by_cases mine : other = child
  · simp [node_activate different, mine]
  · by_cases upper : other = parent
    · simp [node_activate different, apart, upper]
    · simp [node_activate different, mine, upper]

@[simp]
theorem mountedOn_activate {parent child : Fin n} (different : child ≠ parent) (route : RouteId n)
    (other : Fin n) :
    ((world.activate router parent child route).1.node other).mountedOn =
      if other = child then some route else (world.node other).mountedOn := by
  have apart := different.symm
  by_cases mine : other = child
  · simp [node_activate different, mine]
  · by_cases upper : other = parent
    · simp [node_activate different, apart, upper]
    · simp [node_activate different, mine, upper]

theorem children_activate {parent child : Fin n} (different : child ≠ parent) (route : RouteId n)
    (other : Fin n) :
    ((world.activate router parent child route).1.node other).children =
      if other = parent ∧ child ∉ (world.node parent).children then
        (world.node parent).children ++ [child]
      else (world.node other).children := by
  have apart := different.symm
  by_cases mine : other = child
  · simp [node_activate different, mine, different]
  · by_cases upper : other = parent
    · by_cases listed : child ∈ (world.node parent).children <;>
        simp [node_activate different, apart, upper, listed]
    · simp [node_activate different, mine, upper]

theorem mem_children_activate {parent child : Fin n} (different : child ≠ parent)
    (route : RouteId n) (other scope : Fin n) :
    scope ∈ ((world.activate router parent child route).1.node other).children ↔
      scope ∈ (world.node other).children ∨ (scope = child ∧ other = parent) := by
  rw [children_activate different]
  by_cases owner : other = parent
  · by_cases listed : child ∈ (world.node parent).children
    · simp only [owner, listed, not_true, and_false, if_false, and_true]
      constructor
      · exact .inl
      · rintro (member | rfl)
        · exact member
        · exact listed
    · simp [owner, listed]
  · simp [owner]

theorem nodup_children_activate (nodup : ∀ scope, (world.node scope).children.Nodup)
    {parent child : Fin n} (different : child ≠ parent) (route : RouteId n) (other : Fin n) :
    ((world.activate router parent child route).1.node other).children.Nodup := by
  rw [children_activate different]
  split
  · rename_i appended
    refine List.nodup_append.mpr ⟨nodup parent, List.nodup_singleton child, ?_⟩
    rintro listed member last single rfl
    exact appended.2 (List.mem_singleton.mp single ▸ member)
  · exact nodup other

/-- Mounting below the parent of the forest keeps the links in order. -/
theorem Linked.activate (linked : world.Linked forest) {parent child : Fin n}
    (link : forest.upward child = some parent) (route : RouteId n) :
    (world.activate router parent child route).1.Linked forest := by
  have different := Forest.ne_of_link link
  have elsewhere : ∀ other, child ∈ (world.node other).children → other = parent :=
    fun other member => Option.some.inj ((linked.upward_of_mem member).symm.trans link)
  refine ⟨?_, ?_, ?_⟩
  · intro other scope
    rw [mem_children_activate different, parent_activate different]
    by_cases mine : scope = child
    · rw [mine, if_pos rfl]
      constructor
      · rintro (listed | ⟨_, owner⟩)
        · exact ⟨congrArg some (elsewhere other listed).symm, not_false⟩
        · exact ⟨congrArg some owner.symm, not_false⟩
      · rintro ⟨upper, _⟩
        exact .inr ⟨rfl, (Option.some.inj upper).symm⟩
    · rw [if_neg mine, or_iff_left fun both => mine both.1]
      exact linked.listed_iff
  · intro other scope upper
    rw [parent_activate different] at upper
    split at upper
    · rename_i mine
      rw [mine, link]
      exact upper
    · exact linked.upward_of_parent upper
  · exact nodup_children_activate linked.nodup different route

/-- What a program does to the nodes that only mounts below a scope. -/
structure Mounted (scope : Fin n) (world after : World n ν) : Prop where
  self : ∃ more, after.node scope =
    { world.node scope with children := (world.node scope).children ++ more }
  others : ∀ other, other ≠ scope → after.node other = world.node other ∨
    ∃ route, after.node other =
      { world.node other with parent := some scope, mountedOn := some route }

namespace Mounted

variable {scope other : Fin n} {a b c : World n ν}

theorem of_same_nodes (nodes : ∀ scope, b.node scope = a.node scope) : Mounted scope a b :=
  ⟨⟨[], by rw [nodes, List.append_nil]⟩, fun other _ => .inl (nodes other)⟩

theorem trans (first : Mounted scope a b) (second : Mounted scope b c) : Mounted scope a c := by
  obtain ⟨some_more, self_first⟩ := first.self
  obtain ⟨even_more, self_second⟩ := second.self
  refine ⟨⟨some_more ++ even_more, ?_⟩, ?_⟩
  · rw [self_second, self_first, List.append_assoc]
  · intro other different
    rcases second.others other different with same | ⟨route, taken⟩
    · rw [same]
      exact first.others other different
    · refine .inr ⟨route, ?_⟩
      rcases first.others other different with same | ⟨_, taken_before⟩
      · rw [taken, same]
      · rw [taken, taken_before]

theorem state_eq (mounted : Mounted scope a b) (other : Fin n) :
    (b.node other).state = (a.node other).state := by
  by_cases mine : other = scope
  · obtain ⟨more, self⟩ := mounted.self
    rw [mine, self]
  · rcases mounted.others other mine with same | ⟨_, taken⟩
    · rw [same]
    · rw [taken]

end Mounted

theorem activate_mounted (router : Router n ν) (scope child : Fin n) (route : RouteId n)
    (world : World n ν) : Mounted scope world (world.activate router scope child route).1 := by
  by_cases same : child = scope
  · subst same
    exact .of_same_nodes fun _ => by simp
  · refine ⟨?_, ?_⟩
    · by_cases listed : child ∈ (world.node scope).children
      · exact ⟨[], by simp [node_activate same, Ne.symm same, listed]⟩
      · exact ⟨[child], by simp [node_activate same, Ne.symm same, listed]⟩
    · intro other different
      by_cases mine : other = child
      · exact .inr ⟨route, by simp [node_activate same, mine]⟩
      · exact .inl (by simp [node_activate same, mine, different])

end World

open World

/-- Whether a program only mounts below its own scope, and every world that it mounts a scope in is
good. -/
def Program.StaysIn (good : World n ν → Prop) (router : Router n ν) (route : RouteId n) :
    Program n ν → World n ν → Prop
  | .finish _, _ => True
  | .note what next, world => next.StaysIn good router route (world.record [.noted what])
  | .mount child next, world =>
    let (world, result) := world.activate router route.scope child route
    good world ∧ (next result).StaysIn good router route world
  | .mountUnder _ _ _ _, _ => False
  | .deactivate _ _, _ => False
  | .navigate _ _ _, _ => False

/-- A program that stays in good worlds runs to its end and has only mounted. -/
theorem Program.run_of_staysIn {good : World n ν → Prop}
    (recorded : ∀ world events, good world → good (world.record events))
    (navigate : Fin n → String → World n ν → Option (Outcome × World n ν)) {route : RouteId n}
    {program : Program n ν} {world : World n ν} (start : good world)
    (stays : program.StaysIn good router route world) :
    ∃ succeeded after, program.run router navigate route world = some (succeeded, after) ∧
      good after ∧ Mounted route.scope world after := by
  induction program generalizing world with
  | finish succeeded =>
    exact ⟨succeeded, world, rfl, start, .of_same_nodes fun _ => rfl⟩
  | note what next ih =>
    obtain ⟨succeeded, after, ran, last, mounted⟩ :=
      ih (recorded world [.noted what] start) stays
    have first : Mounted route.scope world (world.record [.noted what]) :=
      .of_same_nodes fun _ => rfl
    exact ⟨succeeded, after, ran, last, first.trans mounted⟩
  | mount child next ih =>
    have first := activate_mounted router route.scope child route world
    obtain ⟨succeeded, after, ran, last, mounted⟩ := ih _ stays.1 stays.2
    exact ⟨succeeded, after, ran, last, first.trans mounted⟩
  | mountUnder _ _ _ _ _ => exact False.elim stays
  | deactivate _ _ _ => exact False.elim stays
  | navigate _ _ _ _ => exact False.elim stays

theorem Program.StaysIn.mono {good better : World n ν → Prop} {route : RouteId n}
    {program : Program n ν} {world : World n ν} (weaker : ∀ world, good world → better world)
    (stays : program.StaysIn good router route world) :
    program.StaysIn better router route world := by
  induction program generalizing world with
  | finish _ => trivial
  | note _ _ ih => exact ih stays
  | mount _ _ ih => exact ⟨weaker _ stays.1, ih _ stays.2⟩
  | mountUnder _ _ _ _ _ => exact stays
  | deactivate _ _ _ => exact stays
  | navigate _ _ _ _ => exact stays

/-- Whether a program only mounts below its own scope, and only scopes that belong there. A scope
that mounts itself gets an error and nothing happens. -/
def Program.MountsBelow (forest : Forest n) (scope : Fin n) : Program n ν → Prop
  | .finish _ => True
  | .note _ next => next.MountsBelow forest scope
  | .mount child next =>
    (child ≠ scope → forest.upward child = some scope) ∧
      ∀ result, (next result).MountsBelow forest scope
  | .mountUnder _ _ _ _ => False
  | .deactivate _ _ => False
  | .navigate _ _ _ => False

theorem World.Linked.record {world : World n ν} (linked : world.Linked forest)
    (events : List (Event n ν)) : (world.record events).Linked forest :=
  LinkedBut.of_same_links linked (fun _ => rfl) fun _ => rfl

theorem Program.staysIn_of_mountsBelow {route : RouteId n} {program : Program n ν}
    (mounts : program.MountsBelow forest route.scope) {world : World n ν}
    (linked : world.Linked forest) : program.StaysIn (Linked forest) router route world := by
  induction program generalizing world with
  | finish _ => trivial
  | note what next ih => exact ih mounts (linked.record [.noted what])
  | mount child next ih =>
    have kept : (world.activate router route.scope child route).1.Linked forest := by
      by_cases same : child = route.scope
      · simpa [same] using linked
      · exact linked.activate (mounts.1 same) route
    exact ⟨kept, ih _ (mounts.2 _) kept⟩
  | mountUnder _ _ _ _ _ => exact mounts
  | deactivate _ _ _ => exact mounts
  | navigate _ _ _ _ => exact mounts

end ScopedRouting
