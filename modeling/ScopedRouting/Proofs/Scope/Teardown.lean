import ScopedRouting.Proofs.Scope.Deactivation

/-!
# Deactivation as a tree of calls

Deactivating a scope deactivates its children first, and nothing is assumed here of the links: a
scope may be listed twice, and the lists may go round in a circle. Still the deactivation is a
finite tree of calls, since each of them takes a list of children away before it goes down. So the
number of child links is enough fuel, and more of it changes nothing.
-/
namespace ScopedRouting.World

variable {n : Nat} {ν : Type} {router : Router n ν} {world after : World n ν} {scope : Fin n}

/-- Takes a scope and its children apart. -/
def strip (scope : Fin n) (world : World n ν) : World n ν :=
  world.update scope fun node => { node with parent := none, mountedOn := none, children := [] }

/-- Runs the hooks of a deactivated scope and lets it forget its match. -/
def settle (router : Router n ν) (scope : Fin n) (world : World n ν) : World n ν :=
  (world.runHooks router scope .deactivate).1.update scope fun node => { node with state := {} }

/-- Whether scopes that have been cut off their parents are deactivated one after the other, each
with everything below it first, and these batches of hooks fail. -/
inductive TornDown (router : Router n ν) :
    List (Fin n) → World n ν → World n ν → List FailedBatch → Prop
  | nil (world : World n ν) : TornDown router [] world world []
  | cons {scope : Fin n} {rest : List (Fin n)} {world inner after : World n ν}
      {failedBelow failedLater : List FailedBatch}
      (below : TornDown router (world.node scope).children (world.strip scope) inner failedBelow)
      (later : TornDown router rest (inner.settle router scope) after failedLater) :
      TornDown router (scope :: rest) world after
        (failedBelow ++ (inner.runHooks router scope .deactivate).2.toList ++ failedLater)

theorem TornDown.unique {scopes : List (Fin n)} {a b : World n ν}
    {failedA failedB : List FailedBatch}
    (fst : TornDown router scopes world a failedA) (snd : TornDown router scopes world b failedB) :
    a = b ∧ failedA = failedB := by
  induction fst generalizing b failedB with
  | nil _ =>
    cases snd
    exact ⟨rfl, rfl⟩
  | cons _ _ ih_below ih_later =>
    cases snd with
    | cons below later =>
      obtain ⟨rfl, rfl⟩ := ih_below below
      obtain ⟨rfl, rfl⟩ := ih_later later
      exact ⟨rfl, rfl⟩

@[simp]
theorem node_strip (scope other : Fin n) (world : World n ν) :
    (world.strip scope).node other = if other = scope then
      { world.node scope with parent := none, mountedOn := none, children := [] }
    else world.node other := by
  by_cases same : other = scope
  · simp [strip, same]
  · simp [strip, same]

theorem node_settle (scope other : Fin n) (world : World n ν) :
    (world.settle router scope).node other =
      if other = scope then { world.node scope with state := {} } else world.node other := by
  by_cases same : other = scope
  · simp [settle, same]
  · simp [settle, same]

@[simp]
theorem trace_strip (scope : Fin n) (world : World n ν) :
    (world.strip scope).trace = world.trace :=
  rfl

@[simp]
theorem parent_settle (scope other : Fin n) (world : World n ν) :
    ((world.settle router scope).node other).parent = (world.node other).parent := by
  by_cases same : other = scope <;> simp [settle, same]

@[simp]
theorem mountedOn_settle (scope other : Fin n) (world : World n ν) :
    ((world.settle router scope).node other).mountedOn = (world.node other).mountedOn := by
  by_cases same : other = scope <;> simp [settle, same]

@[simp]
theorem children_settle (scope other : Fin n) (world : World n ν) :
    ((world.settle router scope).node other).children = (world.node other).children := by
  by_cases same : other = scope <;> simp [settle, same]

/-- A scope that has been cut off is taken apart, its children are deactivated, and it settles. -/
theorem deactivateWith_cut (fuel : Nat) (scope : Fin n) (world : World n ν) :
    deactivateWith router (fuel + 1) scope
        (world.update scope fun node => { node with parent := none }) =
      let torn := deactivateEach (deactivateWith router fuel) (world.node scope).children
        (world.strip scope)
      (torn.1.settle router scope,
        torn.2 ++ (torn.1.runHooks router scope .deactivate).2.toList) := by
  have root : ((world.update scope fun node =>
      { node with parent := none }).node scope).parent = none := by
    simp
  rw [deactivateWith, detach_of_root root]
  simp only [update_update, node_update_self]
  rfl

/-- The child links of nodes. -/
def linksOf (nodes : List (Node n)) : Nat :=
  nodes.foldr (fun node total => node.children.length + total) 0

theorem linksOf_set {nodes : List (Node n)} {index : Nat} (inside : index < nodes.length)
    (node : Node n) :
    linksOf (nodes.set index node) + nodes[index].children.length =
      linksOf nodes + node.children.length := by
  induction nodes generalizing index with
  | nil => exact absurd inside (Nat.not_lt_zero index)
  | cons first rest ih =>
    cases index with
    | zero =>
      simp only [linksOf, List.set_cons_zero, List.foldr_cons, List.getElem_cons_zero]
      omega
    | succ index =>
      have later := ih (Nat.lt_of_succ_lt_succ inside)
      simp only [linksOf, List.set_cons_succ, List.foldr_cons, List.getElem_cons_succ] at later ⊢
      omega

theorem links_update (scope : Fin n) (change : Node n → Node n) (world : World n ν) :
    (world.update scope change).links + (world.node scope).children.length =
      world.links + (change (world.node scope)).children.length := by
  have inside : scope.val < world.nodes.toList.length := by simp
  have set := linksOf_set inside (change (world.node scope))
  have here : world.nodes.toList[scope.val] = world.node scope := by
    simp [node_eq_getElem]
  rw [here] at set
  simpa [links, linksOf, update, Vector.toList_set] using set

theorem links_strip (scope : Fin n) (world : World n ν) :
    (world.strip scope).links + (world.node scope).children.length = world.links :=
  links_update scope _ world

theorem links_settle (router : Router n ν) (scope : Fin n) (world : World n ν) :
    (world.settle router scope).links = world.links := by
  have same := links_update scope (fun node => { node with state := {} })
    (world.runHooks router scope .deactivate).1
  exact Nat.add_right_cancel same

theorem links_detach_le (scope : Fin n) (world : World n ν) :
    (world.detach scope).links ≤ world.links := by
  have last : ∀ world : World n ν, (world.update scope fun node =>
      { node with parent := none, mountedOn := none }).links = world.links := fun world =>
    Nat.add_right_cancel (links_update scope _ world)
  unfold detach
  rw [last]
  split
  · rename_i parent _
    have fewer := List.length_filter_le (· ≠ scope) (world.node parent).children
    have total := links_update parent (fun node =>
      { node with children := node.children.filter (· ≠ scope) }) world
    dsimp only at total
    omega
  · exact Nat.le_refl _

theorem TornDown.links_le {scopes : List (Fin n)} {failed : List FailedBatch}
    (torn : TornDown router scopes world after failed) : after.links ≤ world.links := by
  induction torn with
  | nil _ => exact Nat.le_refl _
  | @cons scope _ world inner _ _ _ _ _ ih_below ih_later =>
    have stripped := links_strip scope world
    have settled := links_settle router scope inner
    omega

/-- Each call takes away the list of children that it goes down, so that links bound the depth. -/
theorem tornDown_deactivateEach {fuel : Nat} {scopes : List (Fin n)} (enough : world.links < fuel) :
    TornDown router scopes world (deactivateEach (deactivateWith router fuel) scopes world).1
      (deactivateEach (deactivateWith router fuel) scopes world).2 := by
  induction fuel generalizing scopes world with
  | zero => omega
  | succ fuel deeper =>
    induction scopes generalizing world with
    | nil => exact .nil world
    | cons scope rest later =>
      have below : TornDown router (world.node scope).children (world.strip scope)
          (deactivateEach (deactivateWith router fuel) (world.node scope).children
            (world.strip scope)).1
          (deactivateEach (deactivateWith router fuel) (world.node scope).children
            (world.strip scope)).2 := by
        have stripped := links_strip scope world
        cases children : (world.node scope).children with
        | nil => exact .nil _
        | cons child others =>
          apply deeper
          rw [children, List.length_cons] at stripped
          omega
      have stripped := links_strip scope world
      have fewer := below.links_le
      rw [deactivateEach, deactivateWith_cut]
      dsimp only
      refine .cons below (later ?_)
      rw [links_settle]
      omega

/-- Deactivating a scope is a finite tree of calls, with as much fuel as there are links. -/
theorem tornDown_deactivateWith {fuel : Nat} (enough : world.links < fuel) (scope : Fin n) :
    TornDown router [scope] (world.detach scope) (deactivateWith router fuel scope world).1
      (deactivateWith router fuel scope world).2 := by
  have fewer := links_detach_le scope world
  have torn : TornDown router [scope] (world.detach scope) _ _ :=
    tornDown_deactivateEach (Nat.lt_of_le_of_lt fewer enough)
  have cut : ((world.detach scope).update scope fun node => { node with parent := none }) =
      world.detach scope := by
    rw [detach, update_update]
  cases fuel with
  | zero => omega
  | succ fuel =>
    simpa only [deactivateEach, cut, deactivateWith_detach, List.append_nil] using torn

theorem tornDown_deactivate (router : Router n ν) (scope : Fin n) (world : World n ν) :
    TornDown router [scope] (world.detach scope) (world.deactivate router scope).1
      (world.deactivate router scope).2 :=
  tornDown_deactivateWith (Nat.lt_succ_self _) scope

/-- More fuel than there are links changes nothing. -/
theorem deactivateWith_eq_deactivate {fuel : Nat} (enough : world.links < fuel) (scope : Fin n) :
    deactivateWith router fuel scope world = world.deactivate router scope := by
  obtain ⟨worlds, batches⟩ :=
    (tornDown_deactivateWith enough scope).unique (tornDown_deactivate router scope world)
  exact Prod.ext worlds batches

/-- Lists only lose scopes when others are torn down. -/
theorem TornDown.mem_of_mem {scopes : List (Fin n)} {failed : List FailedBatch}
    (torn : TornDown router scopes world after failed) {parent child : Fin n}
    (member : child ∈ (after.node parent).children) : child ∈ (world.node parent).children := by
  induction torn with
  | nil _ => exact member
  | @cons scope _ world inner _ _ _ _ _ ih_below ih_later =>
    have settled := ih_later member
    rw [children_settle] at settled
    have stripped := ih_below settled
    rw [node_strip] at stripped
    split at stripped
    · cases stripped
    · exact stripped

theorem mem_of_mem_detach {scope parent child : Fin n}
    (member : child ∈ ((world.detach scope).node parent).children) :
    child ∈ (world.node parent).children := by
  rw [children_detach] at member
  split at member
  · exact List.mem_of_mem_filter member
  · exact member

theorem mem_of_mem_deactivate {scope parent child : Fin n}
    (member : child ∈ ((world.deactivate router scope).1.node parent).children) :
    child ∈ (world.node parent).children :=
  mem_of_mem_detach ((tornDown_deactivate router scope world).mem_of_mem member)

theorem mem_of_mem_deactivateAll {scopes : List (Fin n)} {parent child : Fin n}
    (member : child ∈ ((world.deactivateAll router scopes).node parent).children) :
    child ∈ (world.node parent).children := by
  induction scopes generalizing world with
  | nil => exact member
  | cons scope rest ih => exact mem_of_mem_deactivate (ih member)

end ScopedRouting.World
