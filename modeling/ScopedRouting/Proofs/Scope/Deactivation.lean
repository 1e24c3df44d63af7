import ScopedRouting.Proofs.Scope.Links
import ScopedRouting.Scope.Evaluation

/-!
# Deactivating in a linked world

What taking a scope off its parent does to each field of a node holds in any world. In a linked
world, taking a scope off its parent and cutting off its children keep the links in order, as long
as the children that are cut off count as pending until their turn. A scope that is not below a
deactivated one keeps its node, and only its parent loses it from its list.
-/
namespace ScopedRouting.World

variable {n : Nat} {ν : Type} {router : Router n ν} {forest : Forest n} {pending : Fin n → Prop}
  {world : World n ν}

theorem update_update (scope : Fin n) (first second : Node n → Node n) (world : World n ν) :
    (world.update scope first).update scope second =
      world.update scope fun node => second (first node) := by
  apply ext_node
  · intro other
    by_cases same : other = scope
    · simp [same]
    · simp [same]
  · simp

/-- What a change of nodes keeps is kept in all nodes. -/
theorem kept_update {α : Type} (field : Node n → α) {change : Node n → Node n}
    (keeps : ∀ node, field (change node) = field node) (scope other : Fin n) (world : World n ν) :
    field ((world.update scope change).node other) = field (world.node other) := by
  by_cases same : other = scope
  · simp [same, keeps]
  · simp [same]

/-- Taking a scope off its parent changes lists and the scope itself. -/
theorem kept_detach {α : Type} (field : Node n → α)
    (keeps : ∀ node children, field { node with children } = field node) {scope other : Fin n}
    (different : other ≠ scope) (world : World n ν) :
    field ((world.detach scope).node other) = field (world.node other) := by
  cases upper : (world.node scope).parent with
  | none => simp [detach, upper, different]
  | some parent =>
    simpa [detach, upper, different] using
      kept_update field (fun node => keeps node _) parent other world

@[simp]
theorem parent_detach (scope other : Fin n) (world : World n ν) :
    ((world.detach scope).node other).parent =
      if other = scope then none else (world.node other).parent := by
  by_cases same : other = scope
  · simp [detach, same]
  · simp [same, kept_detach Node.parent]

@[simp]
theorem mountedOn_detach (scope other : Fin n) (world : World n ν) :
    ((world.detach scope).node other).mountedOn =
      if other = scope then none else (world.node other).mountedOn := by
  by_cases same : other = scope
  · simp [detach, same]
  · simp [same, kept_detach Node.mountedOn]

@[simp]
theorem children_detach (scope other : Fin n) (world : World n ν) :
    ((world.detach scope).node other).children =
      if (world.node scope).parent = some other then
        (world.node other).children.filter (· ≠ scope)
      else (world.node other).children := by
  cases upper : (world.node scope).parent with
  | none => simp [detach, upper, kept_update Node.children]
  | some parent =>
    by_cases owner : other = parent
    · simp [detach, upper, kept_update Node.children, owner]
    · simp [detach, upper, kept_update Node.children, owner, Ne.symm owner]

@[simp]
theorem state_detach (scope other : Fin n) (world : World n ν) :
    ((world.detach scope).node other).state = (world.node other).state := by
  cases upper : (world.node scope).parent with
  | none => simp [detach, upper, kept_update Node.state]
  | some parent => simp [detach, upper, kept_update Node.state]

theorem node_detach (linked : world.LinkedBut forest pending) (scope other : Fin n) :
    (world.detach scope).node other =
      if other = scope then { world.node scope with parent := none, mountedOn := none }
      else (world.node other).without scope := by
  by_cases same : other = scope
  · subst same
    cases upper : (world.node other).parent with
    | none => simp [detach, upper]
    | some parent =>
      have different := Forest.ne_of_link (linked.upward_of_parent upper)
      simp [detach, upper, different]
  · cases upper : (world.node scope).parent with
    | none =>
      simp [detach, upper, same, Node.without_of_not_mem (linked.not_listed_of_root upper other)]
    | some parent =>
      by_cases owner : other = parent
      · subst owner
        simp [detach, upper, same, Node.without]
      · have absent : scope ∉ (world.node other).children := by
          intro member
          have link := (linked.listed_iff.mp member).1
          rw [upper] at link
          exact owner (Option.some.inj link).symm
        simp [detach, upper, same, owner, Node.without_of_not_mem absent]

theorem LinkedBut.detach (linked : world.LinkedBut forest pending) (scope : Fin n) :
    (world.detach scope).LinkedBut forest pending := by
  have own_list : scope ∉ (world.node scope).children := fun member =>
    Forest.ne_of_link (linked.upward_of_mem member) rfl
  have children : ∀ parent, ((world.detach scope).node parent).children =
      (world.node parent).children.filter (· ≠ scope) := by
    intro parent
    by_cases same : parent = scope
    · rw [node_detach linked, if_pos same, same]
      exact (congrArg Node.children (Node.without_of_not_mem own_list)).symm
    · simp only [node_detach linked, same, if_false, Node.without]
  refine ⟨?_, ?_, ?_⟩
  · intro parent child
    rw [children, parent_detach, List.mem_filter, linked.listed_iff]
    by_cases same : child = scope
    · simp [same]
    · simp [same]
  · intro parent child upper
    rw [parent_detach] at upper
    split at upper
    · cases upper
    · exact linked.upward_of_parent upper
  · intro parent
    rw [children]
    exact (linked.nodup parent).filter _

/-- A scope that has been taken off its parent can be taken off once more. -/
theorem detach_detach (scope : Fin n) (world : World n ν) :
    (world.detach scope).detach scope = world.detach scope := by
  have root : ((world.detach scope).node scope).parent = none := by
    simp
  have unmounted : ((world.detach scope).node scope).mountedOn = none := by
    simp
  have again : (world.detach scope).detach scope = (world.detach scope).update scope
      fun node => { node with parent := none, mountedOn := none } := by
    rw [detach, root]
  apply ext_node
  · intro other
    rw [again]
    by_cases same : other = scope
    · subst same
      simp only [node_update_self]
      generalize (world.detach other).node other = node at root unmounted
      obtain ⟨parent, mountedOn, children, state⟩ := node
      subst root unmounted
      rfl
    · simp [same]
  · simp [again]

theorem detach_of_root {scope : Fin n} (root : (world.node scope).parent = none) :
    world.detach scope =
      world.update scope fun node => { node with parent := none, mountedOn := none } := by
  rw [detach, root]

theorem LinkedBut.cut {child : Fin n} {rest : List (Fin n)}
    (linked : world.LinkedBut forest fun scope => pending scope ∨ scope ∈ child :: rest) :
    (world.update child fun node => { node with parent := none }).LinkedBut forest
      fun scope => pending scope ∨ scope ∈ rest := by
  have parents : ∀ scope, ((world.update child fun node =>
      { node with parent := none }).node scope).parent =
        if scope = child then none else (world.node scope).parent := by
    intro scope
    by_cases same : scope = child <;> simp [same]
  have children : ∀ scope, ((world.update child fun node =>
      { node with parent := none }).node scope).children = (world.node scope).children := by
    intro scope
    by_cases same : scope = child <;> simp [same]
  refine ⟨?_, ?_, ?_⟩
  · intro parent scope
    rw [children, parents, linked.listed_iff, List.mem_cons]
    by_cases same : scope = child
    · simp [same]
    · simp [same]
  · intro parent scope upper
    rw [parents] at upper
    split at upper
    · cases upper
    · exact linked.upward_of_parent upper
  · intro scope
    rw [children]
    exact linked.nodup scope

theorem LinkedBut.clear (linked : world.LinkedBut forest pending) (scope : Fin n) :
    (world.update scope fun node => { node with children := [] }).LinkedBut forest
      fun child => pending child ∨ child ∈ (world.node scope).children := by
  have parents : ∀ other, ((world.update scope fun node =>
      { node with children := [] }).node other).parent = (world.node other).parent := by
    intro other
    by_cases same : other = scope <;> simp [same]
  refine ⟨?_, ?_, ?_⟩
  · intro parent child
    rw [parents]
    by_cases same : parent = scope
    · subst same
      simp only [node_update_self, linked.listed_iff, List.not_mem_nil, false_iff]
      rintro ⟨upper, settled⟩
      exact settled (.inr ⟨upper, fun waits => settled (.inl waits)⟩)
    · simp only [ne_eq, same, not_false_eq_true, node_update_other, linked.listed_iff]
      constructor
      · rintro ⟨upper, settled⟩
        refine ⟨upper, ?_⟩
        rintro (waits | ⟨other, _⟩)
        · exact settled waits
        · exact same (Option.some.inj (upper.symm.trans other))
      · rintro ⟨upper, settled⟩
        exact ⟨upper, fun waits => settled (.inl waits)⟩
  · intro parent child upper
    exact linked.upward_of_parent (parents child ▸ upper)
  · intro other
    by_cases same : other = scope
    · simp [same]
    · simpa [same] using linked.nodup other

/-- Everything that is not below a scope has the same node as before. -/
def SameOutside (forest : Forest n) (top : Fin n) (world after : World n ν) : Prop :=
  ∀ scope, ¬ Below forest.upward top scope → after.node scope = world.node scope

/-- What deactivating a scope without a parent has to keep. -/
def Deactivates (forest : Forest n)
    (deactivate : Fin n → World n ν → World n ν × List FailedBatch) : Prop :=
  ∀ {pending : Fin n → Prop} {scope : Fin n} {world : World n ν},
    world.LinkedBut forest pending → (world.node scope).parent = none →
      (deactivate scope world).1.LinkedBut forest pending ∧
        SameOutside forest scope world (deactivate scope world).1

theorem deactivateEach_spec {deactivate : Fin n → World n ν → World n ν × List FailedBatch}
    (deactivates : Deactivates forest deactivate) {children : List (Fin n)}
    (linked : world.LinkedBut forest fun scope => pending scope ∨ scope ∈ children) :
    (deactivateEach deactivate children world).1.LinkedBut forest pending ∧
      ∀ scope, (∀ child ∈ children, ¬ Below forest.upward child scope) →
        (deactivateEach deactivate children world).1.node scope = world.node scope := by
  induction children generalizing world with
  | nil =>
    refine ⟨?_, fun _ _ => rfl⟩
    simpa [deactivateEach] using linked
  | cons child rest ih =>
    have root : ((world.update child fun node =>
        { node with parent := none }).node child).parent = none := by
      simp
    obtain ⟨kept, same⟩ := deactivates linked.cut root
    obtain ⟨linked_after, same_after⟩ := ih kept
    refine ⟨linked_after, ?_⟩
    intro scope outside
    have not_child : ¬ Below forest.upward child scope := outside child List.mem_cons_self
    have different : scope ≠ child := by
      rintro rfl
      exact not_child .self
    rw [← node_update_other different world fun node => { node with parent := none }]
    exact (same_after scope fun other member =>
      outside other (List.mem_cons_of_mem child member)).trans (same scope not_child)

theorem deactivateWith_root (router : Router n ν) (fuel : Nat) :
    Deactivates forest (deactivateWith router fuel : Fin n → World n ν → _) := by
  induction fuel with
  | zero =>
    intro pending scope world linked _
    exact ⟨linked, fun _ _ => rfl⟩
  | succ fuel ih =>
    intro pending scope world linked root
    have detached : (world.detach scope).LinkedBut forest pending := linked.detach scope
    obtain ⟨kept, same⟩ := deactivateEach_spec ih (detached.clear scope)
    rw [deactivateWith]
    dsimp only
    refine ⟨LinkedBut.update (kept.of_same_links (fun _ => rfl) fun _ => rfl) rfl rfl, ?_⟩
    intro other outside
    have different : other ≠ scope := by
      rintro rfl
      exact outside .self
    have elsewhere := same other fun child member path =>
      outside (Below.of_link (detached.upward_of_mem member) path)
    have still : (world.detach scope).node other = world.node other := by
      simp [detach_of_root root, different]
    simp only [node_update_other different, node_runHooks, elsewhere, still]

/-- Deactivating a scope is deactivating it once it is off its parent. -/
theorem deactivateWith_detach (fuel : Nat) (scope : Fin n) (world : World n ν) :
    deactivateWith router (fuel + 1) scope (world.detach scope) =
      deactivateWith router (fuel + 1) scope world := by
  rw [deactivateWith, deactivateWith, detach_detach]

theorem deactivate_spec (router : Router n ν) (linked : world.Linked forest) (scope : Fin n) :
    (world.deactivate router scope).1.Linked forest ∧
      ∀ other, ¬ Below forest.upward scope other →
        (world.deactivate router scope).1.node other = (world.node other).without scope := by
  have root : ((world.detach scope).node scope).parent = none := by
    simp
  obtain ⟨kept, same⟩ := deactivateWith_root router (world.links + 1)
    (linked.detach scope) root
  rw [deactivateWith_detach] at kept same
  refine ⟨kept, ?_⟩
  intro other outside
  have different : other ≠ scope := by
    rintro rfl
    exact outside .self
  rw [deactivate, same other outside, node_detach linked, if_neg different]

/-- Deactivating children of a scope takes them out of its list and leaves everything alone that
is not below one of them. -/
theorem deactivateAll_spec (router : Router n ν) {parent : Fin n} {stale : List (Fin n)}
    (linked : world.Linked forest)
    (children : ∀ child ∈ stale, forest.upward child = some parent) :
    (world.deactivateAll router stale).Linked forest ∧
      ∀ other, (∀ child ∈ stale, ¬ Below forest.upward child other) →
        (world.deactivateAll router stale).node other =
          { world.node other with
            children := (world.node other).children.filter (· ∉ stale) } := by
  induction stale generalizing world with
  | nil =>
    refine ⟨linked, ?_⟩
    intro other _
    simp [deactivateAll]
  | cons child rest ih =>
    obtain ⟨kept, same⟩ := deactivate_spec router linked child
    obtain ⟨linked_after, same_after⟩ := ih kept fun other member =>
      children other (List.mem_cons_of_mem child member)
    refine ⟨linked_after, ?_⟩
    intro other outside
    have later := same_after other fun stale member =>
      outside stale (List.mem_cons_of_mem child member)
    rw [same other (outside child List.mem_cons_self)] at later
    refine later.trans ?_
    simp only [Node.without, List.filter_filter, List.mem_cons, not_or, Node.mk.injEq, true_and,
      and_true]
    apply List.filter_congr
    intro listed _
    by_cases this : listed = child <;> by_cases those : listed ∈ rest <;> simp [this, those]

end ScopedRouting.World
