/-!
# Lifecycle hooks

Hooks run when a scope is mounted and when it is deactivated. The hooks of a scope run as one
batch: a hook that fails stops no other, and the failures of a batch are reported together.
-/
namespace ScopedRouting

inductive Phase where
  | activate
  | deactivate
deriving DecidableEq

def Phase.toText : Phase → String
  | .activate => "activate"
  | .deactivate => "deactivate"

/-- An error and its causes, the outermost first. -/
structure Failure where
  causes : List String
deriving DecidableEq

def Failure.message (failure : Failure) : String :=
  ": ".intercalate failure.causes

/-- What a hook noted down, and whether it failed. -/
structure HookReport (ν : Type) where
  notes : List ν
  failure : Option Failure

/-- A hook knows the phase and the name of the scope. It reports the same each time that it runs:
a hook whose own state has changed in between is another hook. -/
abbrev Hook (ν : Type) := Phase → (scope : String) → HookReport ν

/-- A batch of hooks of which some failed. -/
structure FailedBatch where
  phase : Phase
  scope : String
  failures : List Failure
deriving DecidableEq

def FailedBatch.message (batch : FailedBatch) : String :=
  s!"{batch.failures.length} " ++ batch.phase.toText ++
    s!" hook(s) failed for scope \x60{batch.scope}\x60: " ++
    "; ".intercalate (batch.failures.map Failure.message)

/-- The message of batches that failed together. -/
def FailedBatch.messages (batches : List FailedBatch) : String :=
  "; ".intercalate (batches.map FailedBatch.message)

/-- Runs all hooks in order. -/
def runHooks {ν : Type} (hooks : List (Hook ν)) (phase : Phase) (scope : String) :
    List ν × Option FailedBatch :=
  let reports := hooks.map fun hook => hook phase scope
  let failures := reports.filterMap (·.failure)
  (reports.flatMap (·.notes), if failures = [] then none else some ⟨phase, scope, failures⟩)

end ScopedRouting
