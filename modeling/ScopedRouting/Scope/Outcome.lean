import ScopedRouting.Query
import ScopedRouting.Value

/-!
# Outcomes of navigation

What a scope knows of its last match, and what an evaluation reports to its caller.
-/
namespace ScopedRouting

/-- A match of a route. -/
structure RouteData where
  template : String
  /-- The tokens that the route took, joined. -/
  path : String
  /-- The values handed down from above, overlaid with those of this route. -/
  values : Values
  /-- The query values, overlaid with the ambient ones. -/
  query : Query
deriving DecidableEq

/-- Why an evaluation failed. -/
inductive Reason where
  /-- No route matches this rest of the path. -/
  | noMatch (rest : String)
  | unreadableValues
  | handlerFailed
  /-- A host gives its own reason. -/
  | stated (text : String)
deriving DecidableEq

def Reason.message : Reason → String
  | .noMatch rest => "No match found for the remaining route path: " ++ rest
  | .unreadableValues => "Error while reading route values"
  | .handlerFailed => "Error while invoking routing handler"
  | .stated text => text

/-- The outcome of an evaluation. The URL of a success is the whole path that was evaluated. -/
inductive Outcome where
  | success (relativeUrl : String) (query : Query)
  | failure (reason : Reason)
deriving DecidableEq

namespace Outcome

def isSuccess : Outcome → Bool
  | .success _ _ => true
  | .failure _ => false

def relativeUrl? : Outcome → Option String
  | .success url _ => some url
  | .failure _ => none

def reason? : Outcome → Option Reason
  | .success _ _ => none
  | .failure reason => some reason

end Outcome

end ScopedRouting
