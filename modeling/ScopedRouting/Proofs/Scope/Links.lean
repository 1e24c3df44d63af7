import ScopedRouting.Proofs.Scope.Forest
import ScopedRouting.Scope.Mounting

/-!
# Links between scopes

In a linked world a scope lists exactly the scopes that have it as their parent, each once, and
all parents are those of a forest. Mounting below the parent of the forest keeps this, and so does
deactivating. Deactivating a scope leaves everything alone that is not below it, but for the list
of its parent.
-/
namespace ScopedRouting

variable {n : Nat} {ν : Type}

/-- The node without a scope among its children. -/
def Node.without (scope : Fin n) (node : Node n) : Node n :=
  { node with children := node.children.filter (· ≠ scope) }

@[simp]
theorem Node.without_of_not_mem {scope : Fin n} {node : Node n}
    (absent : scope ∉ node.children) : node.without scope = node := by
  have all : node.children.filter (· ≠ scope) = node.children := by
    apply List.filter_eq_self.mpr
    intro child member
    apply decide_eq_true
    rintro rfl
    exact absent member
  rw [Node.without, all]

namespace World

variable {forest : Forest n} {pending : Fin n → Prop} {world : World n ν}

/-- Two worlds with the same nodes and the same trace are equal. -/
theorem ext_node {a b : World n ν} (nodes : ∀ scope, a.node scope = b.node scope)
    (trace : a.trace = b.trace) : a = b := by
  obtain ⟨nodesA, traceA⟩ := a
  obtain ⟨nodesB, traceB⟩ := b
  have same : nodesA = nodesB := Vector.ext fun i h => nodes ⟨i, h⟩
  subst same
  exact congrArg (World.mk nodesA) trace

/-- Links in both directions that agree and follow a forest, except that a pending scope still
has a parent and is listed no more. -/
structure LinkedBut (forest : Forest n) (pending : Fin n → Prop) (world : World n ν) : Prop where
  listed_iff : ∀ {parent child}, child ∈ (world.node parent).children ↔
    (world.node child).parent = some parent ∧ ¬ pending child
  upward_of_parent : ∀ {parent child}, (world.node child).parent = some parent →
    forest.upward child = some parent
  nodup : ∀ scope, (world.node scope).children.Nodup

/-- Links in both directions that agree and follow a forest. -/
def Linked (forest : Forest n) (world : World n ν) : Prop :=
  world.LinkedBut forest fun _ => False

theorem Linked.mem_children_iff (linked : world.Linked forest) {parent child : Fin n} :
    child ∈ (world.node parent).children ↔ (world.node child).parent = some parent :=
  linked.listed_iff.trans (and_iff_left not_false)

theorem LinkedBut.upward_of_mem (linked : world.LinkedBut forest pending) {parent child : Fin n}
    (member : child ∈ (world.node parent).children) : forest.upward child = some parent :=
  linked.upward_of_parent (linked.listed_iff.mp member).1

theorem LinkedBut.not_listed_of_root (linked : world.LinkedBut forest pending) {child : Fin n}
    (root : (world.node child).parent = none) (parent : Fin n) :
    child ∉ (world.node parent).children := by
  intro member
  have upper := (linked.listed_iff.mp member).1
  rw [root] at upper
  cases upper

theorem linked_initial : (initial : World n ν).Linked forest := by
  refine ⟨?_, ?_, ?_⟩
  · intro parent child
    simp
  · intro parent child upper
    simp at upper
  · intro scope
    simp

/-- Linking is a matter of parents and lists only. -/
theorem LinkedBut.of_same_links {other : World n ν} (linked : world.LinkedBut forest pending)
    (parents : ∀ scope, (other.node scope).parent = (world.node scope).parent)
    (children : ∀ scope, (other.node scope).children = (world.node scope).children) :
    other.LinkedBut forest pending := by
  refine ⟨?_, ?_, ?_⟩
  · intro parent child
    rw [parents, children]
    exact linked.listed_iff
  · intro parent child upper
    exact linked.upward_of_parent (parents child ▸ upper)
  · intro scope
    rw [children]
    exact linked.nodup scope

theorem LinkedBut.update {other : Fin n} {change : Node n → Node n}
    (linked : world.LinkedBut forest pending)
    (parent : (change (world.node other)).parent = (world.node other).parent)
    (children : (change (world.node other)).children = (world.node other).children) :
    (world.update other change).LinkedBut forest pending := by
  apply linked.of_same_links
  · intro scope
    rw [node_update]
    split
    · rename_i same
      exact same ▸ parent
    · rfl
  · intro scope
    rw [node_update]
    split
    · rename_i same
      exact same ▸ children
    · rfl

end World

end ScopedRouting
