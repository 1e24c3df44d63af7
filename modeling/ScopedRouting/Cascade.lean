/-!
# Cascades

When a scope has matched a route, at most one of its children goes on with the rest of the path:
the first that is mounted on this route. Children that are not mounted on it are stale. Further
children on the same route stay mounted and idle.
-/
namespace ScopedRouting

/-- A child scope and the route of its parent that it is mounted on. -/
structure ActiveChild (ι ρ : Type) where
  id : ι
  mountedOn : Option ρ

structure CascadePlan (ι : Type) where
  continueWith : Option ι
  deactivate : List ι
deriving DecidableEq

/-- Plans what becomes of the children of a scope. -/
def CascadePlan.ofMatch {ι ρ : Type} [DecidableEq ρ] (matched : ρ) :
    List (ActiveChild ι ρ) → CascadePlan ι
  | [] => ⟨none, []⟩
  | child :: rest =>
    let later := ofMatch matched rest
    if child.mountedOn = some matched then { later with continueWith := some child.id }
    else { later with deactivate := child.id :: later.deactivate }

end ScopedRouting
