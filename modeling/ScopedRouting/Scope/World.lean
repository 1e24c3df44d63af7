import ScopedRouting.Config
import ScopedRouting.Scope.Program
import ScopedRouting.Table

/-!
# Scopes and their world

A scope is declared once: its routes, handlers, hooks and settings never change. What changes is
held in a world, with one node for each scope and a trace of what has happened.
-/
namespace ScopedRouting

structure Scope (n : Nat) (ν : Type) where
  name : String
  config : Config
  table : Table (Handler n ν)
  invoker : Invoker n ν
  hooks : List (Hook ν)
  /-- Query values that win over those of a URL. -/
  ambient : Query

/-- The scopes of a router. -/
abbrev Router (n : Nat) (ν : Type) := Vector (Scope n ν) n

/-- What a scope has committed. -/
structure ScopeState where
  current : Option RouteData := none
  /-- The joined tokens that the scopes above have taken. -/
  rootPath : String := "/"
deriving DecidableEq

structure Node (n : Nat) where
  parent : Option (Fin n) := none
  /-- The route that the scope is mounted on, while it is active. -/
  mountedOn : Option (RouteId n) := none
  /-- The active children in the order of their activation. -/
  children : List (Fin n) := []
  state : ScopeState := {}
deriving DecidableEq

inductive Event (n : Nat) (ν : Type) where
  /-- The handler of a match was called. -/
  | invoked (scope : Fin n) (data : RouteData)
  /-- The hooks of a scope ran as a batch. -/
  | hooksRan (scope : Fin n) (phase : Phase)
  | noted (what : ν)
deriving DecidableEq

structure World (n : Nat) (ν : Type) where
  nodes : Vector (Node n) n
  /-- What has happened, the oldest event first. -/
  trace : List (Event n ν)

namespace World

variable {n : Nat} {ν : Type}

/-- No scope is mounted and none has matched. -/
def initial : World n ν :=
  ⟨.replicate n {}, []⟩

def node (world : World n ν) (scope : Fin n) : Node n :=
  world.nodes.get scope

def update (world : World n ν) (scope : Fin n) (change : Node n → Node n) : World n ν :=
  { world with nodes := world.nodes.set scope (change (world.node scope)) scope.isLt }

def record (world : World n ν) (events : List (Event n ν)) : World n ν :=
  { world with trace := world.trace ++ events }

theorem node_eq_getElem (world : World n ν) (scope : Fin n) :
    world.node scope = world.nodes[scope.val] :=
  rfl

@[simp]
theorem node_initial (scope : Fin n) : (initial : World n ν).node scope = {} := by
  simp only [node_eq_getElem, initial, Vector.getElem_replicate]

theorem node_update (world : World n ν) (scope other : Fin n) (change : Node n → Node n) :
    (world.update scope change).node other =
      if scope = other then change (world.node scope) else world.node other := by
  simp only [node_eq_getElem, update, Vector.getElem_set, Fin.ext_iff]

@[simp]
theorem node_update_self (world : World n ν) (scope : Fin n) (change : Node n → Node n) :
    (world.update scope change).node scope = change (world.node scope) := by
  rw [node_update, if_pos rfl]

@[simp]
theorem node_update_other {scope other : Fin n} (different : other ≠ scope) (world : World n ν)
    (change : Node n → Node n) : (world.update scope change).node other = world.node other := by
  rw [node_update, if_neg different.symm]

@[simp]
theorem trace_update (world : World n ν) (scope : Fin n) (change : Node n → Node n) :
    (world.update scope change).trace = world.trace :=
  rfl

@[simp]
theorem node_record (world : World n ν) (events : List (Event n ν)) (scope : Fin n) :
    (world.record events).node scope = world.node scope :=
  rfl

@[simp]
theorem trace_record (world : World n ν) (events : List (Event n ν)) :
    (world.record events).trace = world.trace ++ events :=
  rfl

end World

end ScopedRouting
