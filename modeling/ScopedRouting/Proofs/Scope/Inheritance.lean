import ScopedRouting.Proofs.Scope.Conservation
import ScopedRouting.Proofs.Scope.Course

/-!
# What a cascade hands down

A match builds on what it is handed: its values are the ones from above with those of its own tokens
over them, and its query is the one from above with the ambient values of its scope over it. So the
data of every step is made up of everything from the top down to it, whether the handlers on the way
are called or left out. Where two of these have a key, the lower one counts.
-/
namespace ScopedRouting

namespace Dictionary

variable {α : Type}

/-- Maps one over the other, the last one on top. -/
def overlays (dict : Dictionary α) (maps : List (Dictionary α)) : Dictionary α :=
  maps.foldl overlay dict

@[simp]
theorem overlays_cons (dict first : Dictionary α) (rest : List (Dictionary α)) :
    dict.overlays (first :: rest) = (dict.overlay first).overlays rest :=
  rfl

/-- The last map that has a key gives its value. -/
theorem get?_overlays (dict : Dictionary α) (maps : List (Dictionary α)) (key : String) :
    (dict.overlays maps).get? key =
      (maps.reverse.findSome? (·.get? key)).or (dict.get? key) := by
  induction maps generalizing dict with
  | nil => rfl
  | cons first rest ih =>
    simp [ih, List.findSome?_append, Option.or_assoc]

end Dictionary

variable {n : Nat} {ν : Type} {router : Router n ν}

/-- Whether a step comes from a match in its table, with the values read between two cursors. A
handler that is called gets the data of the step, and so does the commit. -/
structure Step.Delivers (router : Router n ν) (course : List (Moment n ν)) (found : Found n ν)
    (cursor behind : Cursor) (own : Values) (step : Step n) : Prop where
  route : step.route = found.id
  entry : (router.get found.scope).table.find? cursor = some (found.entry, found.place)
  read : found.entry.route.readValues cursor = (.ok own, behind)
  called : ∃ met : World n ν, ⟨met, .matched step⟩ ∈ course ∧ (step.invoked = true →
    ∃ fuel called, met.invoke router (World.navigateWith router (World.handle router fuel)) found
      step.data = some (true, called))
  committed : ∃ met : World n ν, ⟨met, .committed step⟩ ∈ course

theorem Step.Delivers.mono {course wider : List (Moment n ν)} {found : Found n ν}
    {cursor behind : Cursor} {own : Values} {step : Step n} (within : course ⊆ wider)
    (delivers : step.Delivers router course found cursor behind own) :
    step.Delivers router wider found cursor behind own where
  route := delivers.route
  entry := delivers.entry
  read := delivers.read
  called := by
    obtain ⟨met, matched, invoked⟩ := delivers.called
    exact ⟨met, within matched, invoked⟩
  committed := by
    obtain ⟨met, committed⟩ := delivers.committed
    exact ⟨met, within committed⟩

/-- Whether steps hand down values and query, each with its own over what it was handed. -/
inductive FlowsDown (router : Router n ν) (course : List (Moment n ν)) :
    Cursor → Values → Query → List (Step n) → Prop
  | ends {cursor : Cursor} {values : Values} {query : Query} :
      FlowsDown router course cursor values query []
  | goes {found : Found n ν} {cursor behind : Cursor} {values own : Values} {query : Query}
      {step : Step n} {below : List (Step n)}
      (delivers : step.Delivers router course found cursor behind own)
      (overlaid : step.data.values = values.overlay own)
      (merged : step.data.query = query.overlay (router.get step.route.scope).ambient)
      (rest : FlowsDown router course behind.toRelative step.data.values step.data.query below) :
      FlowsDown router course cursor values query (step :: below)

theorem FlowsDown.mono {course wider : List (Moment n ν)} {cursor : Cursor} {values : Values}
    {query : Query} {steps : List (Step n)} (within : course ⊆ wider)
    (flows : FlowsDown router course cursor values query steps) :
    FlowsDown router wider cursor values query steps := by
  induction flows with
  | ends => exact .ends
  | goes delivers overlaid merged _ ih => exact .goes (delivers.mono within) overlaid merged ih

/-- The query values that steps add, from the top down. -/
def Step.ambients (router : Router n ν) (steps : List (Step n)) : List Query :=
  steps.map fun step => (router.get step.route.scope).ambient

/-- The data of each step, from everything above it. -/
theorem FlowsDown.exists_own {course : List (Moment n ν)} {cursor : Cursor} {values : Values}
    {query : Query} {steps : List (Step n)}
    (flows : FlowsDown router course cursor values query steps) :
    ∃ (cursors : Nat → Cursor) (own : Nat → Values), cursors 0 = cursor ∧
      ∀ i, ∀ inside : i < steps.length,
        (∃ found behind, steps[i].Delivers router course found (cursors i) behind (own i) ∧
          cursors (i + 1) = behind.toRelative) ∧
        steps[i].data.values = values.overlays ((List.range (i + 1)).map own) ∧
        steps[i].data.query = query.overlays (Step.ambients router (steps.take (i + 1))) := by
  induction flows with
  | @ends cursor values query =>
    exact ⟨fun _ => cursor, fun _ => values, rfl, fun i inside => absurd inside (Nat.not_lt_zero i)⟩
  | @goes found cursor behind values own query step below delivers overlaid merged rest ih =>
    obtain ⟨cursors, lower, first, each⟩ := ih
    refine ⟨fun i => if i = 0 then cursor else cursors (i - 1),
      fun i => if i = 0 then own else lower (i - 1), rfl, ?_⟩
    intro i inside
    cases i with
    | zero => exact ⟨⟨found, behind, delivers, first⟩, overlaid, merged⟩
    | succ i =>
      obtain ⟨delivered, values_eq, query_eq⟩ := each i (Nat.lt_of_succ_lt_succ inside)
      refine ⟨delivered, values_eq.trans ?_, query_eq.trans ?_⟩
      · have upper : List.range (i + 1 + 1) = 0 :: (List.range (i + 1)).map Nat.succ :=
          List.range_succ_eq_map
        rw [overlaid, upper, List.map_cons, List.map_map, Dictionary.overlays_cons]
        rfl
      · simp [merged, Step.ambients]

namespace World

variable {world after : World n ν} {request : Request} {evaluation : Evaluation n}

theorem flowsDown_of_handle {fuel : Nat} {scope : Fin n}
    (h : world.handle router fuel scope request = some (evaluation, after)) :
    FlowsDown router (world.course router fuel scope request) request.cursor request.values
      request.query evaluation.steps := by
  induction fuel generalizing scope request world evaluation after with
  | zero => cases h
  | succ fuel ih =>
    obtain ⟨less, same, ⟨_, rfl, _⟩ | ⟨found, search, handled⟩⟩ := handle_cases h
    · exact .ends
    · cases same
      cases handled with
      | unreadable _ => exact .ends
      | failed _ _ => exact .ends
      | @passed own cursor called cascaded below read call cascade =>
        have own_data : (found.step router request own cursor world).data =
          found.data router request own cursor := rfl
        simp only [course, search, matchedCourse, read, own_data, call, cascade]
        refine .goes ⟨rfl, find?_of_searchWith search, read, ?_, ?_⟩ rfl rfl ?_
        · refine ⟨world, List.mem_append_left _ List.mem_cons_self, fun invoked => ?_⟩
          rcases call_cases call with ⟨unchanged, _⟩ | ⟨_, ran⟩
          · change (!world.isUnchanged router found _) = true at invoked
            rw [unchanged] at invoked
            cases invoked
          · exact ⟨fuel, called, ran⟩
        · refine ⟨cascaded, List.mem_append_right _ (List.mem_append_right _ ?_)⟩
          exact List.mem_singleton.mpr rfl
        · rcases cascade_cases cascade with ⟨_, rfl, _⟩ | ⟨child, evaluation, goes, handled, rfl⟩
          · exact .ends
          · refine (ih handled).mono fun moment member =>
              List.mem_append_right _ (List.mem_append_left _ ?_)
            simp only [cascadeCourse, goes]
            exact List.mem_append_right _ member

/-- The query of a success is that of its first step. -/
theorem query_of_success {fuel : Nat} {scope : Fin n} {url : String} {query : Query}
    (h : world.handle router fuel scope request = some (evaluation, after))
    (success : evaluation.outcome = .success url query) :
    ∃ first below, evaluation.steps = first :: below ∧ query = first.data.query ∧
      query = request.query.overlay (router.get first.route.scope).ambient := by
  obtain ⟨less, rfl, ⟨_, rfl, _⟩ | ⟨found, search, handled⟩⟩ := handle_cases h
  · cases success
  · cases handled with
    | unreadable _ => cases success
    | failed _ _ => cases success
    | passed _ _ _ =>
      cases success
      exact ⟨_, _, rfl, rfl, rfl⟩

end World

open World

/-- What a cascade hands down, for any cursor, values and query to begin with. The values of a step
are those of the request with what was read from the top down to the step over them, and its query
is that of the request with the ambient values of these scopes over it, so that the last one that
has a key gives its value. On the course of the evaluation, a handler that is called gets these
data, and they are what the step commits and, where the scope has no other step above, what the
scope is left with. A success has the query of the first step, whatever is below. -/
theorem cascade_overlays_data {n : Nat} {ν : Type} {router : Router n ν} {fuel : Nat}
    {scope : Fin n} {request : Request} {world after : World n ν} {evaluation : Evaluation n}
    (h : world.handle router fuel scope request = some (evaluation, after)) :
    world.Passes {router} (world.course router fuel scope request) after ∧
    (∃ (cursors : Nat → Cursor) (own : Nat → Values), cursors 0 = request.cursor ∧
      ∀ i, ∀ inside : i < evaluation.steps.length,
        (∃ found behind, evaluation.steps[i].Delivers router
            (world.course router fuel scope request) found (cursors i) behind (own i) ∧
          cursors (i + 1) = behind.toRelative) ∧
        evaluation.steps[i].data.values =
          request.values.overlays ((List.range (i + 1)).map own) ∧
        evaluation.steps[i].data.query =
          request.query.overlays (Step.ambients router (evaluation.steps.take (i + 1))) ∧
        ∀ key,
          evaluation.steps[i].data.values.get? key =
            (((List.range (i + 1)).map own).reverse.findSome? (·.get? key)).or
              (request.values.get? key) ∧
          evaluation.steps[i].data.query.get? key =
            ((Step.ambients router (evaluation.steps.take (i + 1))).reverse.findSome?
              (·.get? key)).or (request.query.get? key)) ∧
    (∀ owner step, evaluation.steps.find? (·.route.scope = owner) = some step →
      (after.node owner).state.current = some step.data) ∧
    ∀ url query, evaluation.outcome = .success url query →
      ∃ first below, evaluation.steps = first :: below ∧ query = first.data.query ∧
        query = request.query.overlay (router.get first.route.scope).ambient := by
  obtain ⟨cursors, own, first, each⟩ := (flowsDown_of_handle h).exists_own
  refine ⟨passes_of_handle h, ⟨cursors, own, first, fun i inside => ?_⟩, ?_,
    fun _ _ => query_of_success h⟩
  · obtain ⟨delivers, values, query⟩ := each i inside
    refine ⟨delivers, values, query, fun key => ⟨?_, ?_⟩⟩
    · rw [values, Dictionary.get?_overlays]
    · rw [query, Dictionary.get?_overlays]
  · intro owner step found
    rw [state_of_handle h found]

/-- A sample: shelves of goods, with a scope for a single good. Both add to the query. -/
def shelves : Router 2 Unit :=
  Vector.ofFn fun scope =>
    if scope.val = 0 then
      { name := "shelves", config := { baseUrl := "app:/" }, invoker := .direct, hooks := []
        table := .standard [("/:item/:page?/*", fun _ => .mount (.last 1) fun _ => .finish true)]
        ambient := .ofList [("lang", "en"), ("view", "list")] }
    else
      { name := "goods", config := { baseUrl := "app:/" }, invoker := .direct, hooks := []
        table := .standard [("~/:item/:size?large", fun _ => .finish true)]
        ambient := .ofList [("view", "single")] }

/-- A sample: the request for a good, with values and a query to begin with. -/
def shelfRequest (good : String) : Request where
  root := "/"
  cursor := .ofTokens ["tea", "2", good]
  values := .ofList [("page", .text "9"), ("size", .text "small"), ("note", .text "new")]
  query := .ofList [("lang", "de"), ("view", "none"), ("sort", "name")]

/-- The second good on a shelf. The handler of the shelf is left out, and what the shelf has read is
handed down all the same: the item is that of the good, the page that of the shelf, the size the
default of the good, and the note is the one from the beginning. -/
theorem cascade_overlays_data_of_shelves :
    ∃ (world after : World 2 Unit) (evaluation : Evaluation 2) (shelf good : Step 2),
      world.handle shelves 2 0 (shelfRequest "black") = some (evaluation, after) ∧
      evaluation.steps = [shelf, good] ∧ shelf.invoked = false ∧ good.invoked = true ∧
      good.data.values = .ofList [("item", .text "black"), ("page", .text "2"),
        ("size", .text "large"), ("note", .text "new")] ∧
      good.data.query = .ofList [("lang", "en"), ("view", "single"), ("sort", "name")] ∧
      (∃ upper lower : Values, good.data.values =
        ((shelfRequest "black").values.overlay upper).overlay lower) ∧
      (after.node 1).state.current = some good.data ∧
      evaluation.outcome = .success "/tea/2/black/" shelf.data.query ∧
      shelf.data.query = .ofList [("lang", "en"), ("view", "list"), ("sort", "name")] := by
  have facts : (World.initial.handle shelves 2 0 (shelfRequest "green")).bind (fun first =>
      (first.2.handle shelves 2 0 (shelfRequest "black")).map fun result =>
        (result.1.steps.map fun step => (step.route.scope, step.invoked, step.data),
          result.1.outcome.relativeUrl?)) =
      some ([(0, false, ⟨"/:item/:page?/*", "/tea/2/", .ofList [("item", .text "tea"),
              ("page", .text "2"), ("size", .text "small"), ("note", .text "new")],
              .ofList [("lang", "en"), ("view", "list"), ("sort", "name")]⟩),
            (1, true, ⟨"~/:item/:size?large", "/black/", .ofList [("item", .text "black"),
              ("page", .text "2"), ("size", .text "large"), ("note", .text "new")],
              .ofList [("lang", "en"), ("view", "single"), ("sort", "name")]⟩)],
          some "/tea/2/black/") := by
    decide +kernel
  obtain ⟨⟨_, world⟩, _, facts⟩ := Option.bind_eq_some_iff.mp facts
  obtain ⟨⟨⟨outcome, steps⟩, after⟩, h, facts⟩ := Option.map_eq_some_iff.mp facts
  obtain ⟨listed, url⟩ := Prod.mk.inj facts
  obtain ⟨shelf, _, rfl, first, rest⟩ := List.map_eq_cons_iff.mp listed
  obtain ⟨good, _, rfl, second, ends⟩ := List.map_eq_cons_iff.mp rest
  obtain rfl := List.map_eq_nil_iff.mp ends
  simp only [Prod.mk.injEq] at first second
  obtain ⟨top, skipped, shelf_data⟩ := first
  obtain ⟨goods, called, good_data⟩ := second
  obtain ⟨_, ⟨cursors, own, _, each⟩, committed, success⟩ := cascade_overlays_data h
  obtain ⟨_, overlaid, _⟩ := each 1 (Nat.lt_succ_self 1)
  have last : (after.node 1).state.current = some good.data := by
    refine committed 1 good ?_
    rw [List.find?_cons, top, List.find?_cons, goods]
    rfl
  obtain ⟨path, merged, rfl⟩ : ∃ path merged, outcome = .success path merged := by
    cases outcome with
    | success path merged => exact ⟨path, merged, rfl⟩
    | failure reason => cases url
  obtain ⟨_, _, same, rfl, _⟩ := success path merged rfl
  cases same
  cases url
  exact ⟨world, after, _, shelf, good, h, rfl, skipped, called, congrArg RouteData.values good_data,
    congrArg RouteData.query good_data, ⟨own 0, own 1, overlaid⟩, last, rfl,
    congrArg RouteData.query shelf_data⟩

end ScopedRouting
