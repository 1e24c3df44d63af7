import ScopedRouting.Scope.World

/-!
# Mounting and deactivating scopes

A scope is mounted below another on one of its routes. Deactivating a scope takes it off its
parent and deactivates everything below it.
-/
namespace ScopedRouting.World

variable {n : Nat} {ν : Type} (router : Router n ν)

/-- Runs the hooks of a scope as one batch. -/
def runHooks (scope : Fin n) (phase : Phase) (world : World n ν) :
    World n ν × Option FailedBatch :=
  let declared := router.get scope
  let (notes, failed) := ScopedRouting.runHooks declared.hooks phase declared.name
  (world.record (.hooksRan scope phase :: notes.map .noted), failed)

@[simp]
theorem node_runHooks (scope other : Fin n) (phase : Phase) (world : World n ν) :
    (world.runHooks router scope phase).1.node other = world.node other :=
  rfl

/-- Mounts a scope on a route. A scope that is already active below this parent only changes its
route, and its hooks do not run. -/
def activate (parent child : Fin n) (route : RouteId n) (world : World n ν) :
    World n ν × Except MountError Unit :=
  if parent = child then (world, .error (.ownChild (router.get parent).name))
  else
    let world := world.update child fun node =>
      { node with parent := some parent, mountedOn := some route }
    if child ∈ (world.node parent).children then (world, .ok ())
    else
      let world := world.update parent fun node =>
        { node with children := node.children ++ [child] }
      let (world, failed) := world.runHooks router child .activate
      (world, failed.elim (.ok ()) fun batch => .error (.hooks batch))

/-- Takes a scope off its parent. -/
def detach (scope : Fin n) (world : World n ν) : World n ν :=
  let world := match (world.node scope).parent with
    | some parent => world.update parent fun node =>
      { node with children := node.children.filter (· ≠ scope) }
    | none => world
  world.update scope fun node => { node with parent := none, mountedOn := none }

/-- Cuts children off their parent and deactivates them, one after the other. -/
def deactivateEach (deactivate : Fin n → World n ν → World n ν × List FailedBatch) :
    List (Fin n) → World n ν → World n ν × List FailedBatch
  | [], world => (world, [])
  | child :: rest, world =>
    let (world, failed) := deactivate child (world.update child fun node =>
      { node with parent := none })
    let (world, later) := deactivateEach deactivate rest world
    (world, failed ++ later)

/-- Deactivates a scope, everything below it first, and collects the batches of hooks that
failed. -/
def deactivateWith : (fuel : Nat) → Fin n → World n ν → World n ν × List FailedBatch
  | 0, _, world => (world, [])
  | fuel + 1, scope, world =>
    let world := world.detach scope
    let children := (world.node scope).children
    let world := world.update scope fun node => { node with children := [] }
    let (world, below) := deactivateEach (deactivateWith fuel) children world
    let (world, own) := world.runHooks router scope .deactivate
    (world.update scope fun node => { node with state := {} }, below ++ own.toList)

/-- The number of child links. -/
def links (world : World n ν) : Nat :=
  world.nodes.toList.foldr (fun node total => node.children.length + total) 0

/-- Deactivates a scope with everything below it. Each step down uses up a child link, so their
number bounds the depth. -/
def deactivate (scope : Fin n) (world : World n ν) : World n ν × List FailedBatch :=
  deactivateWith router (world.links + 1) scope world

/-- Follows parents up to a scope without one. -/
def climb? (world : World n ν) : (fuel : Nat) → Fin n → Option (Fin n)
  | fuel, scope =>
    match (world.node scope).parent, fuel with
    | none, _ => some scope
    | some _, 0 => none
    | some parent, fuel + 1 => climb? world fuel parent

/-- The scope at the top of the tree, none if the parents go round in a circle. -/
def root? (world : World n ν) (scope : Fin n) : Option (Fin n) :=
  world.climb? n scope

end ScopedRouting.World
