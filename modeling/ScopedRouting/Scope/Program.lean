import ScopedRouting.Lifecycle
import ScopedRouting.Scope.Outcome

/-!
# Handlers

A handler is called with a match and answers with a program: a tree of requests to the scopes,
each with a continuation for the reply. Scopes are numbered below `n`, and what handlers note
down is of type `ν`.
-/
namespace ScopedRouting

/-- A route of a scope, by its place in the table. Equal templates at two places are different
routes. -/
structure RouteId (n : Nat) where
  scope : Fin n
  place : Nat
deriving DecidableEq

/-- Why a scope was not mounted, or mounted with a fault. -/
inductive MountError where
  | ownChild (scope : String)
  | hooks (batch : FailedBatch)
deriving DecidableEq

def MountError.message : MountError → String
  | .ownChild scope => s!"scope \x60{scope}\x60 cannot be its own child"
  | .hooks batch => batch.message

/-- What a handler does. -/
inductive Program (n : Nat) (ν : Type) where
  | finish (succeeded : Bool)
  | note (what : ν) (next : Program n ν)
  /-- Mounts a scope below its own, on the matched route. -/
  | mount (child : Fin n) (next : Except MountError Unit → Program n ν)
  /-- Mounts a scope below any other, on any route. -/
  | mountUnder (parent child : Fin n) (route : RouteId n)
      (next : Except MountError Unit → Program n ν)
  | deactivate (scope : Fin n) (next : List FailedBatch → Program n ν)
  | navigate (scope : Fin n) (url : String) (next : Outcome → Program n ν)

/-- The program with others behind its ends. -/
def Program.andThen {n : Nat} {ν : Type} (after : Bool → Program n ν) :
    Program n ν → Program n ν
  | .finish succeeded => after succeeded
  | .note what next => .note what (next.andThen after)
  | .mount child next => .mount child fun result => (next result).andThen after
  | .mountUnder parent child route next =>
    .mountUnder parent child route fun result => (next result).andThen after
  | .deactivate scope next => .deactivate scope fun failed => (next failed).andThen after
  | .navigate scope url next => .navigate scope url fun outcome => (next outcome).andThen after

/-- What a handler sees. -/
structure Context (n : Nat) where
  route : RouteId n
  data : RouteData

namespace Context

variable {n : Nat}

/-- The scope whose route matched. -/
def scope (context : Context n) : Fin n :=
  context.route.scope

def value? (context : Context n) (name : String) : Option Value :=
  context.data.values.get? name

def query? (context : Context n) (key : String) : Option String :=
  context.data.query.get? key

end Context

abbrev Handler (n : Nat) (ν : Type) := Context n → Program n ν

/-- What stands between the router and the handlers of a scope: it may wrap the program of a
handler or leave it out. -/
abbrev Invoker (n : Nat) (ν : Type) := Handler n ν → Handler n ν

/-- Leaves handlers as they are. -/
def Invoker.direct {n : Nat} {ν : Type} : Invoker n ν :=
  id

end ScopedRouting
