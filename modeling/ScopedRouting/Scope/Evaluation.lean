import ScopedRouting.Cascade
import ScopedRouting.Scope.Mounting
import ScopedRouting.Url.Reader

/-!
# Evaluating URLs

A scope that is handed a cursor looks for the first route that matches, calls its handler unless
nothing has changed, and hands the cursor on to the child that is mounted on this route. Handlers
may mount scopes in a circle or navigate without end, so evaluation has an explicit fuel, and a
result of `none` says that it ran out or that the scopes form a circle.
-/
namespace ScopedRouting

/-- The path of a URL up to the query separator. -/
def Config.pathOf (config : Config) (url : String) : Path :=
  let path := (Path.coerce url).toList.takeWhile (· != config.querySeparator)
  .parse config.pathOptions (String.ofList path)

/-- The query of a URL behind the query separator. -/
def Config.queryOf (config : Config) (url : String) : Query :=
  let rest := (Path.coerce url).toList.dropWhile (· != config.querySeparator)
  .parse (String.ofList (rest.drop 1))

/-- What a scope is handed. -/
structure Request where
  /-- The joined tokens that were taken above. -/
  root : String
  cursor : Cursor
  values : Values
  query : Query

/-- A scope that has matched, called its handler or left it out, and committed the match. -/
structure Step (n : Nat) where
  route : RouteId n
  root : String
  /-- The positions of the cursor before and behind the tokens of the route. -/
  start : Nat
  stop : Nat
  data : RouteData
  /-- Whether the handler was called. -/
  invoked : Bool

/-- An outcome, and the steps that were committed, from the top down. -/
structure Evaluation (n : Nat) where
  outcome : Outcome
  steps : List (Step n)

def Evaluation.failed {n : Nat} (reason : Reason) : Evaluation n :=
  ⟨.failure reason, []⟩

/-- An entry that matches, the scope that has it and its place there. -/
structure Found (n : Nat) (ν : Type) where
  scope : Fin n
  entry : Entry (Handler n ν)
  place : Nat

def Found.id {n : Nat} {ν : Type} (found : Found n ν) : RouteId n :=
  ⟨found.scope, found.place⟩

/-- The match that a request led to, with the values read and the cursor behind them. -/
def Found.data {n : Nat} {ν : Type} (router : Router n ν) (found : Found n ν) (request : Request)
    (own : Values) (cursor : Cursor) : RouteData where
  template := found.entry.route.template
  path := cursor.takenSince request.cursor.position
  values := request.values.overlay own
  query := request.query.overlay (router.get found.scope).ambient

/-- What is handed on behind a match. -/
def Request.behind (request : Request) (data : RouteData) (cursor : Cursor) : Request :=
  ⟨Path.below request.root data.path, cursor.toRelative, data.values, data.query⟩

/-- Whether a match is where the last one was. The query only counts if the scope says so. -/
def ScopeState.isUnchanged (state : ScopeState) (config : Config) (data : RouteData) : Bool :=
  match state.current with
  | none => false
  | some current =>
    current.path == data.path && current.template == data.template &&
      (!config.reinvokeOnQueryChange || current.query == data.query)

/-- Runs the program of a handler. The result is whether it succeeded. -/
def Program.run {n : Nat} {ν : Type} (router : Router n ν)
    (navigate : Fin n → String → World n ν → Option (Outcome × World n ν)) (route : RouteId n) :
    Program n ν → World n ν → Option (Bool × World n ν)
  | .finish succeeded, world => some (succeeded, world)
  | .note what next, world => next.run router navigate route (world.record [.noted what])
  | .mount child next, world =>
    let (world, result) := world.activate router route.scope child route
    (next result).run router navigate route world
  | .mountUnder parent child on next, world =>
    let (world, result) := world.activate router parent child on
    (next result).run router navigate route world
  | .deactivate scope next, world =>
    let (world, failed) := world.deactivate router scope
    (next failed).run router navigate route world
  | .navigate scope url next, world => do
    let (outcome, world) ← navigate scope url world
    (next outcome).run router navigate route world

namespace World

variable {n : Nat} {ν : Type} (router : Router n ν)

/-- The first entry that matches in a scope or, for a cursor that is not relative, in the active
scopes below it. -/
def searchWith (cursor : Cursor) (world : World n ν) :
    (fuel : Nat) → Fin n → Option (Option (Found n ν))
  | 0, _ => none
  | fuel + 1, scope =>
    match (router.get scope).table.find? cursor with
    | some (entry, place) => some (some ⟨scope, entry, place⟩)
    | none =>
      if cursor.relative then some none
      else (world.node scope).children.findSomeM? (searchWith cursor world fuel)

/-- Searches below a scope. Scopes that form no circle are less than `n` deep. -/
def search (cursor : Cursor) (scope : Fin n) (world : World n ν) : Option (Option (Found n ν)) :=
  world.searchWith router cursor n scope

/-- Calls the handler of a match. -/
def invoke (navigate : Fin n → String → World n ν → Option (Outcome × World n ν))
    (found : Found n ν) (data : RouteData) (world : World n ν) : Option (Bool × World n ν) :=
  let handler := (router.get found.scope).invoker found.entry.handler
  (handler ⟨found.id, data⟩).run router navigate found.id
    (world.record [.invoked found.scope data])

/-- Whether a match is where the last match of its scope was. -/
def isUnchanged (found : Found n ν) (data : RouteData) (world : World n ν) : Bool :=
  (world.node found.scope).state.isUnchanged (router.get found.scope).config data

/-- Calls the handler of a match unless nothing has changed. The result is whether the cascade
may go on. -/
def call (navigate : Fin n → String → World n ν → Option (Outcome × World n ν))
    (found : Found n ν) (data : RouteData) (world : World n ν) : Option (Bool × World n ν) :=
  if world.isUnchanged router found data then some (true, world)
  else world.invoke router navigate found data

/-- What becomes of the children of a scope behind a match of one of its routes. -/
def plan (matched : RouteId n) (world : World n ν) : CascadePlan (Fin n) :=
  CascadePlan.ofMatch matched <|
    (world.node matched.scope).children.map fun child => ⟨child, (world.node child).mountedOn⟩

/-- Deactivates scopes one after the other. What their hooks report does not count. -/
def deactivateAll (scopes : List (Fin n)) (world : World n ν) : World n ν :=
  scopes.foldl (fun world scope => (world.deactivate router scope).1) world

/-- Deactivates the stale children of a scope and hands a request to the one that goes on. Its
outcome does not count. -/
def cascade (handle : Fin n → Request → World n ν → Option (Evaluation n × World n ν))
    (matched : RouteId n) (request : Request) (world : World n ν) :
    Option (List (Step n) × World n ν) :=
  let plan := world.plan matched
  let world := world.deactivateAll router plan.deactivate
  match plan.continueWith with
  | none => some ([], world)
  | some child => do
    let (evaluation, world) ← handle child request world
    return (evaluation.steps, world)

/-- Where a URL is to be evaluated that is given to a scope: a URL with the relative indicator
on the scope itself, behind the tokens of its root path, and any other at the top. The result is
none if there is no top. -/
def locate (scope : Fin n) (url : String) (defaults : Values) (world : World n ν) :
    Option (Fin n × Request) :=
  let config := (router.get scope).config
  let path := config.pathOf url
  if path.relative then
    let rootPath := (world.node scope).state.rootPath
    let root := (Path.parse config.pathOptions rootPath).segments
    some (scope, ⟨rootPath, .resumed (root ++ path.segments) root.length, defaults,
      config.queryOf url⟩)
  else do
    let top ← world.root? scope
    let config := (router.get top).config
    let (path, query) := Url.split config.baseUrl (Path.coerce url)
    return (top, ⟨"/", .ofPath (Path.parse config.pathOptions path), defaults,
      .parse (query.getD "")⟩)

/-- Evaluates a URL with a given way of handling requests. -/
def evalWith (handle : Fin n → Request → World n ν → Option (Evaluation n × World n ν))
    (scope : Fin n) (url : String) (defaults : Values) (world : World n ν) :
    Option (Evaluation n × World n ν) := do
  let (owner, request) ← world.locate router scope url defaults
  handle owner request world

/-- Evaluates a URL for a handler, which gets to know the outcome. -/
def navigateWith (handle : Fin n → Request → World n ν → Option (Evaluation n × World n ν))
    (scope : Fin n) (url : String) (world : World n ν) : Option (Outcome × World n ν) :=
  (evalWith router handle scope url .empty world).map fun (evaluation, world) =>
    (evaluation.outcome, world)

/-- Makes a match the last one of its scope. -/
def commit (scope : Fin n) (data : RouteData) (root : String) (world : World n ν) : World n ν :=
  world.update scope fun node => { node with state := ⟨some data, root⟩ }

@[simp]
theorem node_commit_self (scope : Fin n) (data : RouteData) (root : String) (world : World n ν) :
    (world.commit scope data root).node scope =
      { world.node scope with state := ⟨some data, root⟩ } :=
  node_update_self world scope _

@[simp]
theorem node_commit_other {scope other : Fin n} (different : other ≠ scope) (data : RouteData)
    (root : String) (world : World n ν) :
    (world.commit scope data root).node other = world.node other :=
  node_update_other different world _

@[simp]
theorem parent_commit (scope other : Fin n) (data : RouteData) (root : String)
    (world : World n ν) :
    ((world.commit scope data root).node other).parent = (world.node other).parent := by
  by_cases same : other = scope <;> simp [same]

@[simp]
theorem mountedOn_commit (scope other : Fin n) (data : RouteData) (root : String)
    (world : World n ν) :
    ((world.commit scope data root).node other).mountedOn = (world.node other).mountedOn := by
  by_cases same : other = scope <;> simp [same]

@[simp]
theorem children_commit (scope other : Fin n) (data : RouteData) (root : String)
    (world : World n ν) :
    ((world.commit scope data root).node other).children = (world.node other).children := by
  by_cases same : other = scope <;> simp [same]

@[simp]
theorem trace_commit (scope : Fin n) (data : RouteData) (root : String) (world : World n ν) :
    (world.commit scope data root).trace = world.trace :=
  rfl

/-- Calls the handler of a match, hands the rest on and commits the match. -/
def handleMatched (handle : Fin n → Request → World n ν → Option (Evaluation n × World n ν))
    (found : Found n ν) (request : Request) (world : World n ν) :
    Option (Evaluation n × World n ν) :=
  match found.entry.route.readValues request.cursor with
  | (.error _, _) => some (.failed .unreadableValues, world)
  | (.ok own, cursor) => do
    let data := found.data router request own cursor
    let unchanged := world.isUnchanged router found data
    let (succeeded, world) ← world.call router (navigateWith router handle) found data
    if !succeeded then return (.failed .handlerFailed, world)
    let (below, world) ← world.cascade router handle found.id (request.behind data cursor)
    let step : Step n :=
      ⟨found.id, request.root, request.cursor.position, cursor.position, data, !unchanged⟩
    return (⟨.success cursor.sourcePath data.query, step :: below⟩,
      world.commit found.scope data request.root)

/-- Handles a request: finds the first match below a scope and handles it. -/
def handle : (fuel : Nat) → Fin n → Request → World n ν → Option (Evaluation n × World n ν)
  | 0, _, _, _ => none
  | fuel + 1, scope, request, world => do
    match ← world.search router request.cursor scope with
    | none => return (.failed (.noMatch request.cursor.remainingPath), world)
    | some found => world.handleMatched router (handle fuel) found request

/-- Evaluates a URL on a scope, with values to begin with. -/
def eval (fuel : Nat) (scope : Fin n) (url : String) (defaults : Values) (world : World n ν) :
    Option (Evaluation n × World n ν) :=
  world.evalWith router (handle router fuel) scope url defaults

/-- Evaluates a URL without values to begin with. -/
def navigate (fuel : Nat) (scope : Fin n) (url : String) (world : World n ν) :
    Option (Evaluation n × World n ν) :=
  world.eval router fuel scope url .empty

/-- The URL of a template of a scope. A relative template continues the root path. -/
def hrefFor (scope : Fin n) (template : String) (values : Values) (world : World n ν) :
    Except RouteError String :=
  match (router.get scope).table.byTemplate? template with
  | none => .error (.unknownTemplate template)
  | some (entry, _) =>
    match (entry.route.resolve values false).1 with
    | .error e => .error e
    | .ok path =>
      .ok (if entry.route.relative then Path.below (world.node scope).state.rootPath path
        else path)

end World

end ScopedRouting
