import Mathlib.Data.Set.Insert
import ScopedRouting.Proofs.Scope.Evaluation

/-!
# The course of an evaluation

Whatever an evaluation does to a world is made of a few changes: a note, a mount, a deactivation,
a match whose handler is called or left out, and a commit. The course of an evaluation lists them
in their order, those of the evaluations that its handlers ask for among them, each with the world
that it meets. Handlers may do anything. Going through the course leads from the world before the
evaluation to the world behind it.
-/
namespace ScopedRouting

inductive Change (n : Nat) (ν : Type) where
  | noted (what : ν)
  | mounted (parent child : Fin n) (route : RouteId n)
  | deactivated (scope : Fin n)
  /-- A scope has matched, and its handler is called or left out as the step says. -/
  | matched (step : Step n)
  | committed (step : Step n)

/-- A change and the world that it meets. -/
structure Moment (n : Nat) (ν : Type) where
  world : World n ν
  change : Change n ν

variable {n : Nat} {ν : Type}

/-- What a change makes of the world that it meets. -/
inductive Moment.LeadsTo (router : Router n ν) : Moment n ν → World n ν → Prop
  | noted (world : World n ν) (what : ν) :
      LeadsTo router ⟨world, .noted what⟩ (world.record [.noted what])
  | mounted (world : World n ν) (parent child : Fin n) (route : RouteId n) :
      LeadsTo router ⟨world, .mounted parent child route⟩
        (world.activate router parent child route).1
  | deactivated (world : World n ν) (scope : Fin n) :
      LeadsTo router ⟨world, .deactivated scope⟩ (world.deactivate router scope).1
  | called (world : World n ν) {step : Step n} (invoked : step.invoked = true)
      (changed : (world.node step.route.scope).state.isUnchanged
        (router.get step.route.scope).config step.data = false) :
      LeadsTo router ⟨world, .matched step⟩
        (world.record [.invoked step.route.scope step.data])
  | skipped (world : World n ν) {step : Step n} (invoked : step.invoked = false)
      (unchanged : (world.node step.route.scope).state.isUnchanged
        (router.get step.route.scope).config step.data = true) :
      LeadsTo router ⟨world, .matched step⟩ world
  | committed (world : World n ν) (step : Step n) :
      LeadsTo router ⟨world, .committed step⟩ (world.commit step.route.scope step.data step.root)

/-- Whether moments lead one after the other from a world to another. What hooks and handlers do may
depend on when they are called, so each moment has a router of its own among some. -/
inductive World.Passes (routers : Set (Router n ν)) :
    World n ν → List (Moment n ν) → World n ν → Prop
  | nil (world : World n ν) : Passes routers world [] world
  | cons {router : Router n ν} {world next after : World n ν} {change : Change n ν}
      {rest : List (Moment n ν)} (member : router ∈ routers)
      (first : Moment.LeadsTo router ⟨world, change⟩ next)
      (later : Passes routers next rest after) :
      Passes routers world (⟨world, change⟩ :: rest) after

namespace World.Passes

variable {router : Router n ν} {routers : Set (Router n ν)} {a b c : World n ν}
  {moments others : List (Moment n ν)} {change : Change n ν}

theorem single (member : router ∈ routers) (leads : Moment.LeadsTo router ⟨a, change⟩ b) :
    a.Passes routers [⟨a, change⟩] b :=
  .cons member leads (.nil b)

theorem append (first : a.Passes routers moments b) (second : b.Passes routers others c) :
    a.Passes routers (moments ++ others) c := by
  induction first with
  | nil _ => exact second
  | cons member leads _ ih => exact .cons member leads (ih second)

theorem mono {more : Set (Router n ν)} (within : routers ⊆ more)
    (passes : a.Passes routers moments b) : a.Passes more moments b := by
  induction passes with
  | nil world => exact .nil world
  | cons member leads _ ih => exact .cons (within member) leads ih

end World.Passes

/-- What a program does. Evaluations that it asks for have a course of their own. -/
def Program.course (router : Router n ν)
    (navigate : Fin n → String → World n ν → Option (Outcome × World n ν))
    (visit : Fin n → String → World n ν → List (Moment n ν)) (route : RouteId n) :
    Program n ν → World n ν → List (Moment n ν)
  | .finish _, _ => []
  | .note what next, world =>
    ⟨world, .noted what⟩ ::
      next.course router navigate visit route (world.record [.noted what])
  | .mount child next, world =>
    let (after, result) := world.activate router route.scope child route
    ⟨world, .mounted route.scope child route⟩ ::
      (next result).course router navigate visit route after
  | .mountUnder parent child on next, world =>
    let (after, result) := world.activate router parent child on
    ⟨world, .mounted parent child on⟩ :: (next result).course router navigate visit route after
  | .deactivate scope next, world =>
    let (after, failed) := world.deactivate router scope
    ⟨world, .deactivated scope⟩ :: (next failed).course router navigate visit route after
  | .navigate scope url next, world =>
    visit scope url world ++ match navigate scope url world with
      | some (outcome, after) => (next outcome).course router navigate visit route after
      | none => []

/-- The step that a match leads to. -/
def Found.step (router : Router n ν) (found : Found n ν) (request : Request) (own : Values)
    (cursor : Cursor) (world : World n ν) : Step n :=
  let data := found.data router request own cursor
  ⟨found.id, request.root, request.cursor.position, cursor.position, data,
    !world.isUnchanged router found data⟩

namespace World

variable (router : Router n ν)

/-- The handler of a match is called, or left out if nothing has changed. -/
def callCourse (navigate : Fin n → String → World n ν → Option (Outcome × World n ν))
    (visit : Fin n → String → World n ν → List (Moment n ν)) (found : Found n ν) (step : Step n)
    (world : World n ν) : List (Moment n ν) :=
  ⟨world, .matched step⟩ ::
    if world.isUnchanged router found step.data then []
    else
      let handler := (router.get found.scope).invoker found.entry.handler
      (handler ⟨found.id, step.data⟩).course router navigate visit found.id
        (world.record [.invoked found.scope step.data])

def deactivateAllCourse : List (Fin n) → World n ν → List (Moment n ν)
  | [], _ => []
  | scope :: rest, world =>
    ⟨world, .deactivated scope⟩ :: deactivateAllCourse rest (world.deactivate router scope).1

def cascadeCourse (visit : Fin n → Request → World n ν → List (Moment n ν)) (matched : RouteId n)
    (request : Request) (world : World n ν) : List (Moment n ν) :=
  let plan := world.plan matched
  world.deactivateAllCourse router plan.deactivate ++ match plan.continueWith with
    | some child => visit child request (world.deactivateAll router plan.deactivate)
    | none => []

/-- The course of an evaluation that a handler asks for. -/
def navigateCourse (visit : Fin n → Request → World n ν → List (Moment n ν)) (scope : Fin n)
    (url : String) (world : World n ν) : List (Moment n ν) :=
  match world.locate router scope url .empty with
  | some (owner, request) => visit owner request world
  | none => []

/-- A match is handled: its handler is called or left out, the rest is handed on, and the match is
committed unless the handler fails. -/
def matchedCourse (handle : Fin n → Request → World n ν → Option (Evaluation n × World n ν))
    (visit : Fin n → Request → World n ν → List (Moment n ν)) (found : Found n ν)
    (request : Request) (world : World n ν) : List (Moment n ν) :=
  match found.entry.route.readValues request.cursor with
  | (.error _, _) => []
  | (.ok own, cursor) =>
    let step := found.step router request own cursor world
    let behind := request.behind step.data cursor
    world.callCourse router (navigateWith router handle) (navigateCourse router visit) found step ++
      match world.call router (navigateWith router handle) found step.data with
      | some (true, called) =>
        called.cascadeCourse router visit found.id behind ++
          match called.cascade router handle found.id behind with
          | some (_, cascaded) => [⟨cascaded, .committed step⟩]
          | none => []
      | _ => []

/-- The course of handling a request. -/
def course : (fuel : Nat) → Fin n → Request → World n ν → List (Moment n ν)
  | 0, _, _, _ => []
  | fuel + 1, scope, request, world =>
    match world.search router request.cursor scope with
    | some (some found) =>
      world.matchedCourse router (handle router fuel) (course fuel) found request
    | _ => []

/-- The course of evaluating a URL on a scope. -/
def evalCourse (fuel : Nat) (scope : Fin n) (url : String) (defaults : Values)
    (world : World n ν) : List (Moment n ν) :=
  match world.locate router scope url defaults with
  | some (owner, request) => world.course router fuel owner request
  | none => []

end World

variable {router : Router n ν}

theorem Program.passes_of_run
    {navigate : Fin n → String → World n ν → Option (Outcome × World n ν)}
    {visit : Fin n → String → World n ν → List (Moment n ν)} {route : RouteId n}
    (visits : ∀ {scope url world outcome after}, navigate scope url world = some (outcome, after) →
      world.Passes {router} (visit scope url world) after)
    {program : Program n ν} {world after : World n ν} {succeeded : Bool}
    (ran : program.run router navigate route world = some (succeeded, after)) :
    world.Passes {router} (program.course router navigate visit route world) after := by
  induction program generalizing world with
  | finish _ =>
    cases ran
    exact .nil _
  | note what next ih => exact .cons rfl (.noted world what) (ih ran)
  | mount child next ih => exact .cons rfl (.mounted world route.scope child route) (ih _ ran)
  | mountUnder parent child on next ih =>
    exact .cons rfl (.mounted world parent child on) (ih _ ran)
  | deactivate scope next ih => exact .cons rfl (.deactivated world scope) (ih _ ran)
  | navigate scope url next ih =>
    obtain ⟨⟨outcome, between⟩, navigated, ran⟩ := Option.bind_eq_some_iff.mp ran
    have rest := ih outcome ran
    simp only [Program.course, navigated]
    exact (visits navigated).append rest

namespace World

variable {world after : World n ν} {found : Found n ν} {request : Request}
  {evaluation : Evaluation n}
  {handle : Fin n → Request → World n ν → Option (Evaluation n × World n ν)}
  {visit : Fin n → Request → World n ν → List (Moment n ν)}

theorem passes_deactivateAll (router : Router n ν) (scopes : List (Fin n)) (world : World n ν) :
    world.Passes {router} (world.deactivateAllCourse router scopes)
      (world.deactivateAll router scopes) := by
  induction scopes generalizing world with
  | nil => exact .nil world
  | cons scope rest ih => exact .cons rfl (.deactivated world scope) (ih _)

/-- Whether the courses of requests lead to the worlds that handling the requests ends with. -/
def Follows (router : Router n ν)
    (handle : Fin n → Request → World n ν → Option (Evaluation n × World n ν))
    (visit : Fin n → Request → World n ν → List (Moment n ν)) : Prop :=
  ∀ {scope request world evaluation after}, handle scope request world = some (evaluation, after) →
    world.Passes {router} (visit scope request world) after

theorem Follows.passes_of_navigate (follows : Follows router handle visit) {scope : Fin n}
    {url : String} {outcome : Outcome}
    (h : world.navigateWith router handle scope url = some (outcome, after)) :
    world.Passes {router} (world.navigateCourse router visit scope url) after := by
  unfold navigateWith evalWith at h
  obtain ⟨⟨evaluation, last⟩, evaluated, same⟩ := Option.map_eq_some_iff.mp h
  obtain ⟨⟨owner, request⟩, located, handled⟩ := Option.bind_eq_some_iff.mp evaluated
  cases same
  unfold navigateCourse
  rw [located]
  exact follows handled

theorem Follows.passes_of_call (follows : Follows router handle visit) (step : Step n)
    (scope : step.route.scope = found.scope)
    (invoked : step.invoked = !world.isUnchanged router found step.data) {succeeded : Bool}
    (call : world.call router (navigateWith router handle) found step.data =
      some (succeeded, after)) :
    world.Passes {router} (world.callCourse router (navigateWith router handle)
      (navigateCourse router visit) found step) after := by
  unfold callCourse
  have same : world.isUnchanged router found step.data =
      (world.node step.route.scope).state.isUnchanged (router.get step.route.scope).config
        step.data := by
    rw [World.isUnchanged, scope]
  rcases call_cases call with ⟨unchanged, rfl, rfl⟩ | ⟨changed, ran⟩
  · simp only [unchanged, Bool.not_true, if_true] at invoked ⊢
    exact .single rfl (.skipped _ invoked (same.symm.trans unchanged))
  · simp only [changed, Bool.not_false, Bool.false_eq_true, if_false] at invoked ⊢
    have first : Moment.LeadsTo router ⟨world, .matched step⟩
        (world.record [.invoked found.scope step.data]) := by
      rw [← scope]
      exact .called world invoked (same.symm.trans changed)
    exact .cons rfl first (Program.passes_of_run follows.passes_of_navigate ran)

theorem Follows.passes_of_cascade (follows : Follows router handle visit) {matched : RouteId n}
    {below : List (Step n)}
    (cascade : world.cascade router handle matched request = some (below, after)) :
    world.Passes {router} (world.cascadeCourse router visit matched request) after := by
  have clears := passes_deactivateAll router (world.plan matched).deactivate world
  rcases cascade_cases cascade with ⟨ends, _, rfl⟩ | ⟨child, evaluation, goes, handled, _⟩
  · simp only [cascadeCourse, ends, List.append_nil]
    exact clears
  · simp only [cascadeCourse, goes]
    exact clears.append (follows handled)

theorem Follows.passes_of_handled (follows : Follows router handle visit)
    (handled : Handled router handle found request world evaluation after) :
    world.Passes {router} (world.matchedCourse router handle visit found request) after := by
  cases handled with
  | unreadable read =>
    simp only [matchedCourse, read]
    exact .nil world
  | @failed own cursor called read call =>
    have calls := follows.passes_of_call (found.step router request own cursor world) rfl rfl call
    simp only [matchedCourse, read]
    rw [show (found.step router request own cursor world).data =
      found.data router request own cursor from rfl, call, List.append_nil]
    exact calls
  | @passed own cursor called cascaded below read call cascade =>
    have calls := follows.passes_of_call (found.step router request own cursor world) rfl rfl call
    have cascades := follows.passes_of_cascade cascade
    simp only [matchedCourse, read]
    rw [show (found.step router request own cursor world).data =
      found.data router request own cursor from rfl, call]
    dsimp only
    rw [cascade]
    exact calls.append (cascades.append (.single rfl
      (.committed cascaded (found.step router request own cursor world))))

/-- The course of an evaluation leads to the world that it ends with. -/
theorem passes_of_handle {fuel : Nat} {scope : Fin n}
    (h : world.handle router fuel scope request = some (evaluation, after)) :
    world.Passes {router} (world.course router fuel scope request) after := by
  induction fuel generalizing scope request world evaluation after with
  | zero => cases h
  | succ fuel ih =>
    have follows : Follows router (World.handle router fuel) (course router fuel) := fun handled =>
      ih handled
    obtain ⟨less, same, ⟨search, _, rfl⟩ | ⟨found, search, handled⟩⟩ := handle_cases h
    · simp only [course, search]
      exact .nil after
    · cases same
      simp only [course, search]
      exact follows.passes_of_handled handled

theorem passes_of_eval {fuel : Nat} {scope : Fin n} {url : String} {defaults : Values}
    (h : world.eval router fuel scope url defaults = some (evaluation, after)) :
    world.Passes {router} (world.evalCourse router fuel scope url defaults) after := by
  obtain ⟨owner, request, located, handled⟩ := eval_eq_some_iff.mp h
  unfold evalCourse
  rw [located]
  exact passes_of_handle handled

/-- Every step of an evaluation is a match of its course. -/
theorem exists_matched_of_handle {fuel : Nat} {scope : Fin n}
    (h : world.handle router fuel scope request = some (evaluation, after)) :
    ∀ step ∈ evaluation.steps,
      ∃ moment ∈ world.course router fuel scope request, moment.change = .matched step := by
  induction fuel generalizing scope request world evaluation after with
  | zero => cases h
  | succ fuel ih =>
    intro step member
    obtain ⟨less, same, ⟨_, rfl, _⟩ | ⟨found, search, handled⟩⟩ := handle_cases h
    · cases member
    · cases same
      cases handled with
      | unreadable _ => cases member
      | failed _ _ => cases member
      | @passed own cursor called cascaded below read call cascade =>
        have own_data : (found.step router request own cursor world).data =
          found.data router request own cursor := rfl
        simp only [course, search, matchedCourse, read, own_data, call, cascade]
        rcases List.mem_cons.mp member with rfl | member
        · exact ⟨_, List.mem_append_left _ List.mem_cons_self, rfl⟩
        · rcases cascade_cases cascade with ⟨_, rfl, _⟩ | ⟨child, evaluation, goes, handled, rfl⟩
          · cases member
          · obtain ⟨moment, here, matched⟩ := ih handled step member
            refine ⟨moment, List.mem_append_right _ (List.mem_append_left _ ?_), matched⟩
            simp only [cascadeCourse, goes]
            exact List.mem_append_right _ here

end World

end ScopedRouting
