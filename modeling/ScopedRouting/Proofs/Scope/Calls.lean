import ScopedRouting.Proofs.Scope.Containment

/-!
# The handlers that are called

The trace of a world holds the calls of handlers among other events. Neither mounting nor
deactivating calls a handler, and a handler that only mounts calls no other. So where handlers only
mount, a match adds the call of its own handler, or nothing if the handler is left out.
-/
namespace ScopedRouting

variable {n : Nat} {ν : Type} {router : Router n ν}

/-- The call that an event stands for. -/
def Event.call? : Event n ν → Option (Fin n × RouteData)
  | .invoked scope data => some (scope, data)
  | .hooksRan _ _ => none
  | .noted _ => none

/-- The calls of handlers so far. -/
def World.calls (world : World n ν) : List (Fin n × RouteData) :=
  world.trace.filterMap Event.call?

/-- The calls of handlers that belong to steps. -/
def Step.calls (steps : List (Step n)) : List (Fin n × RouteData) :=
  (steps.filter (·.invoked)).map fun step => (step.route.scope, step.data)

@[simp]
theorem Step.calls_cons (step : Step n) (below : List (Step n)) :
    Step.calls (step :: below) =
      (if step.invoked then [(step.route.scope, step.data)] else []) ++ Step.calls below := by
  rw [Step.calls, List.filter_cons]
  split
  · rfl
  · rfl

namespace World

variable {world : World n ν}

@[simp]
theorem calls_record (world : World n ν) (events : List (Event n ν)) :
    (world.record events).calls = world.calls ++ events.filterMap Event.call? :=
  List.filterMap_append

@[simp]
theorem calls_update (world : World n ν) (scope : Fin n) (change : Node n → Node n) :
    (world.update scope change).calls = world.calls :=
  rfl

@[simp]
theorem calls_commit (scope : Fin n) (data : RouteData) (root : String) (world : World n ν) :
    (world.commit scope data root).calls = world.calls :=
  rfl

@[simp]
theorem calls_runHooks (scope : Fin n) (phase : Phase) (world : World n ν) :
    (world.runHooks router scope phase).1.calls = world.calls := by
  have silent : ∀ notes : List ν, (notes.map Event.noted).filterMap
      (Event.call? : Event n ν → _) = [] := by
    intro notes
    rw [List.filterMap_map, List.filterMap_eq_nil_iff]
    intro note _
    rfl
  refine (calls_record world _).trans ?_
  rw [List.filterMap_cons]
  change world.calls ++ List.filterMap Event.call? (List.map Event.noted _) = world.calls
  rw [silent, List.append_nil]

@[simp]
theorem calls_detach (scope : Fin n) (world : World n ν) :
    (world.detach scope).calls = world.calls := by
  cases upper : (world.node scope).parent with
  | none => simp [detach, upper]
  | some parent => simp [detach, upper]

theorem calls_deactivateEach {deactivate : Fin n → World n ν → World n ν × List FailedBatch}
    (silent : ∀ scope world, (deactivate scope world).1.calls = world.calls)
    (children : List (Fin n)) (world : World n ν) :
    (deactivateEach deactivate children world).1.calls = world.calls := by
  induction children generalizing world with
  | nil => rfl
  | cons child rest ih =>
    simp [deactivateEach, ih, silent]

theorem calls_deactivateWith (fuel : Nat) (scope : Fin n) (world : World n ν) :
    (deactivateWith router fuel scope world).1.calls = world.calls := by
  induction fuel generalizing scope world with
  | zero => rfl
  | succ fuel ih =>
    simp [deactivateWith, calls_deactivateEach ih]

theorem calls_deactivateAll (scopes : List (Fin n)) (world : World n ν) :
    (world.deactivateAll router scopes).calls = world.calls := by
  induction scopes generalizing world with
  | nil => rfl
  | cons scope rest ih => exact (ih _).trans (calls_deactivateWith _ _ _)

@[simp]
theorem calls_activate (parent child : Fin n) (route : RouteId n) (world : World n ν) :
    (world.activate router parent child route).1.calls = world.calls := by
  by_cases own : parent = child
  · simp [own]
  · by_cases listed : child ∈ (world.node parent).children
    · simp [activate, own, listed]
    · simp [activate, own, listed]

end World

theorem Program.calls_of_run {good : World n ν → Prop}
    {navigate : Fin n → String → World n ν → Option (Outcome × World n ν)} {route : RouteId n}
    {program : Program n ν} {world after : World n ν} {succeeded : Bool}
    (stays : program.StaysIn good router route world)
    (ran : program.run router navigate route world = some (succeeded, after)) :
    after.calls = world.calls := by
  induction program generalizing world with
  | finish _ =>
    cases ran
    rfl
  | note what next ih =>
    rw [ih stays ran, World.calls_record]
    exact List.append_nil _
  | mount child next ih =>
    exact (ih _ stays.2 ran).trans (World.calls_activate route.scope child route world)
  | mountUnder _ _ _ _ _ => exact False.elim stays
  | deactivate _ _ _ => exact False.elim stays
  | navigate _ _ _ _ => exact False.elim stays

namespace World

variable {world : World n ν} {found : Found n ν}

theorem calls_of_call {good : World n ν → Prop}
    {navigate : Fin n → String → World n ν → Option (Outcome × World n ν)} {data : RouteData}
    {succeeded : Bool} {called : World n ν}
    (stays : CallStaysIn good router found data world)
    (call : world.call router navigate found data = some (succeeded, called)) :
    (succeeded = true ∨ world.isUnchanged router found data = false) ∧
      called.calls = world.calls ++
        if world.isUnchanged router found data then [] else [(found.scope, data)] := by
  rcases call_cases call with ⟨unchanged, rfl, rfl⟩ | ⟨changed, ran⟩
  · rw [if_pos unchanged, List.append_nil]
    exact ⟨.inl rfl, rfl⟩
  · rw [if_neg (Bool.eq_false_iff.mp changed), Program.calls_of_run (stays changed) ran,
      calls_record]
    exact ⟨.inr changed, rfl⟩

end World

end ScopedRouting
