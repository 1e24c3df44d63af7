import ScopedRouting.Proofs.Path.Joining
import ScopedRouting.Proofs.Scope.Declared
import ScopedRouting.Proofs.Scope.History
import ScopedRouting.Proofs.Scope.Teardown

/-!
# Handlers that are left out

A scope remembers the last match that it committed until it is deactivated, and the handler of a
match is left out only if it repeats the template and the path of this last one. The root path is
remembered too, but nothing compares it: the same tokens of a scope below other tokens of its
parent are another place, and the handler is left out there as well.
-/
namespace ScopedRouting

variable {n : Nat} {ν : Type}

/-- The step that a change commits for a scope. -/
def Change.committed? (scope : Fin n) : Change n ν → Option (Step n)
  | .committed step => if step.route.scope = scope then some step else none
  | .noted _ | .mounted _ _ _ | .deactivated _ | .matched _ => none

/-- The last step that moments commit for a scope. -/
def lastCommitted (scope : Fin n) (moments : List (Moment n ν)) : Option (Step n) :=
  (moments.filterMap (·.change.committed? scope)).getLast?

@[simp]
theorem lastCommitted_cons (scope : Fin n) (moment : Moment n ν) (rest : List (Moment n ν)) :
    lastCommitted scope (moment :: rest) =
      (lastCommitted scope rest).or (moment.change.committed? scope) := by
  cases here : moment.change.committed? scope with
  | none => simp [lastCommitted, here]
  | some step =>
    cases later : (rest.filterMap (·.change.committed? scope)).getLast? with
    | none => simp [lastCommitted, here, List.getLast?_cons, later]
    | some last => simp [lastCommitted, here, List.getLast?_cons, later]

/-- The place that a match has in the whole tree: the tokens above it and its own. -/
def Step.place (step : Step n) : String :=
  Path.below step.root step.data.path

/-- Steps with the same path are at the same place if and only if their root paths are the same. -/
theorem Step.place_eq_iff {last step : Step n} (path : last.data.path = step.data.path) :
    last.place = step.place ↔ last.root = step.root := by
  unfold Step.place
  rw [path]
  constructor
  · intro same
    have texts := congrArg String.toList same
    simp only [Path.toList_below] at texts
    exact String.ext (List.append_cancel_right texts)
  · intro same
    rw [same]

namespace World

variable {router : Router n ν} {world after : World n ν} {scope : Fin n}

theorem TornDown.state_eq_or_reset {scopes : List (Fin n)} {failed : List FailedBatch}
    (torn : TornDown router scopes world after failed) (other : Fin n) :
    (after.node other).state = (world.node other).state ∨ (after.node other).state = {} := by
  induction torn with
  | nil _ => exact .inl rfl
  | @cons scope _ world inner _ _ _ _ _ ih_below ih_later =>
    have stripped : ((world.strip scope).node other).state = (world.node other).state := by
      by_cases same : other = scope <;> simp [same]
    rcases ih_later with kept | reset
    · by_cases same : other = scope
      · exact .inr (by simpa [node_settle, same] using kept)
      · rw [kept, node_settle, if_neg same, ← stripped]
        exact ih_below
    · exact .inr reset

theorem state_deactivate (router : Router n ν) (scope other : Fin n) (world : World n ν) :
    ((world.deactivate router scope).1.node other).state = (world.node other).state ∨
      ((world.deactivate router scope).1.node other).state = {} := by
  rw [← state_detach scope other world]
  exact (tornDown_deactivate router scope world).state_eq_or_reset other

/-- Whether a scope has forgotten its matches or remembers this step as the last one. -/
def Remembers (scope : Fin n) (last : Option (Step n)) (world : World n ν) : Prop :=
  (world.node scope).state = {} ∨
    ∃ step, last = some step ∧ (world.node scope).state = ⟨some step.data, step.root⟩

theorem Remembers.of_state_eq {last : Option (Step n)} (remembers : Remembers scope last world)
    (same : (after.node scope).state = (world.node scope).state) :
    Remembers scope last after := by
  unfold Remembers
  rw [same]
  exact remembers

/-- A change makes a scope remember what it commits, or leaves its memory as it is. -/
theorem Remembers.step {moment : Moment n ν} {last : Option (Step n)}
    (remembers : Remembers scope last moment.world) (leads : moment.LeadsTo router after) :
    Remembers scope ((moment.change.committed? scope).or last) after := by
  cases leads with
  | noted world what => exact remembers
  | mounted world parent child route =>
    exact remembers.of_state_eq ((activate_mounted router parent child route world).state_eq scope)
  | deactivated world target =>
    rcases state_deactivate router target scope world with kept | reset
    · exact remembers.of_state_eq kept
    · exact .inl reset
  | called world invoked changed => exact remembers
  | skipped world invoked unchanged => exact remembers
  | committed world step =>
    by_cases own : step.route.scope = scope
    · exact .inr ⟨step, by simp [Change.committed?, own], by simp [own]⟩
    · have other : scope ≠ step.route.scope := fun same => own same.symm
      have nothing : (Change.committed step : Change n ν).committed? scope = none := by
        simp [Change.committed?, own]
      rw [nothing, Option.none_or]
      exact remembers.of_state_eq (by simp [other])

theorem Passes.remembers {routers : Set (Router n ν)} {moments : List (Moment n ν)}
    {last : Option (Step n)} (passes : world.Passes routers moments after)
    (remembers : Remembers scope last world) :
    Remembers scope ((lastCommitted scope moments).or last) after := by
  induction passes generalizing last with
  | nil _ => exact remembers
  | cons _ first _ ih =>
    rw [lastCommitted_cons, Option.or_assoc]
    exact ih (remembers.step first)

/-- A scope remembers the last match that it committed since the beginning, or none. -/
theorem Passes.remembers_last {routers : Set (Router n ν)} {moments : List (Moment n ν)}
    (passes : World.initial.Passes routers moments world) (scope : Fin n) :
    Remembers scope (lastCommitted scope moments) world := by
  have start : Remembers scope none (World.initial : World n ν) :=
    .inl (congrArg Node.state (Vector.getElem_replicate scope.isLt))
  have remembers := passes.remembers start
  rwa [Option.or_none] at remembers

end World

/-- Whether a step repeats the path and the template of another, and its query where that counts. -/
def Step.Repeats (config : Config) (last step : Step n) : Prop :=
  last.data.path = step.data.path ∧ last.data.template = step.data.template ∧
    (config.reinvokeOnQueryChange = true → last.data.query = step.data.query)

theorem Step.repeats_iff {config : Config} {last step : Step n} :
    Step.Repeats config last step ↔
      ScopeState.isUnchanged ⟨some last.data, last.root⟩ config step.data = true := by
  simp [Step.Repeats, ScopeState.isUnchanged, and_assoc, imp_iff_not_or]

/-- The handler of a match is left out exactly if its scope still remembers the last match that it
committed and repeats it. That match was at the same place of the tree exactly if its root path was
the same, and this is not asked. -/
theorem handler_left_out_iff_repeats {routers : Set (Router n ν)} {past : List (Moment n ν)}
    {world after : World n ν} (history : World.History routers past world) {router : Router n ν}
    {fuel : Nat} {scope : Fin n} {url : String} {defaults : Values} {evaluation : Evaluation n}
    (h : world.eval router fuel scope url defaults = some (evaluation, after)) :
    (∀ step ∈ evaluation.steps, ∃ moment ∈ world.evalCourse router fuel scope url defaults,
      moment.change = .matched step) ∧
    ∀ earlier moment later step,
      world.evalCourse router fuel scope url defaults = earlier ++ moment :: later →
      moment.change = .matched step →
      (step.invoked = false ↔ ∃ last,
        lastCommitted step.route.scope (past ++ earlier) = some last ∧
        (moment.world.node step.route.scope).state = ⟨some last.data, last.root⟩ ∧
        Step.Repeats (router.get step.route.scope).config last step ∧
        (last.place = step.place ↔ last.root = step.root)) := by
  constructor
  · obtain ⟨owner, request, located, handled⟩ := World.eval_eq_some_iff.mp h
    unfold World.evalCourse
    rw [located]
    exact World.exists_matched_of_handle handled
  · rintro earlier ⟨met, change⟩ later step course rfl
    have passes := World.passes_of_eval h
    rw [course] at passes
    obtain ⟨inside, _, rfl, next, leads, _⟩ := passes.upTo
    have upTo := (history.passes.mono (Set.subset_univ _)).append (inside.mono (Set.subset_univ _))
    constructor
    · intro left_out
      cases leads with
      | called _ invoked changed =>
        rw [left_out] at invoked
        cases invoked
      | skipped _ invoked unchanged =>
        rcases upTo.remembers_last step.route.scope with forgotten | ⟨last, committed, state⟩
        · rw [forgotten] at unchanged
          cases unchanged
        · rw [state] at unchanged
          have repeats := Step.repeats_iff.mpr unchanged
          exact ⟨last, committed, state, repeats, Step.place_eq_iff repeats.1⟩
    · rintro ⟨last, _, state, repeats, _⟩
      have unchanged := Step.repeats_iff.mp repeats
      rw [← state] at unchanged
      cases leads with
      | called _ invoked changed =>
        rw [unchanged] at changed
        cases changed
      | skipped _ invoked _ => exact invoked

theorem handler_left_out_repeats_in_areas :
    ∃ past world evaluation after step,
      World.History {areas} past world ∧
      world.eval areas 2 0 "/b/view/1" .empty = some (evaluation, after) ∧
      step ∈ evaluation.steps ∧ step.route.scope = 1 ∧ step.invoked = false ∧
      ∃ earlier moment later last,
        world.evalCourse areas 2 0 "/b/view/1" .empty = earlier ++ moment :: later ∧
        lastCommitted 1 (past ++ earlier) = some last ∧
        (moment.world.node 1).state = ⟨some last.data, last.root⟩ ∧
        last.data.path = "/view/1/" ∧ (last.place = step.place ↔ last.root = step.root) := by
  have facts : ((World.initial.eval areas 2 0 "/a/view/1" .empty).bind fun first =>
      (first.2.eval areas 2 0 "/b/view/1" .empty).bind fun second =>
        (second.1.steps.find? (·.route.scope = 1)).map fun step =>
          (step.invoked, step.data.path)) = some (false, "/view/1/") := by
    decide +kernel
  obtain ⟨⟨before, world⟩, h, facts⟩ := Option.bind_eq_some_iff.mp facts
  obtain ⟨⟨evaluation, after⟩, again, facts⟩ := Option.bind_eq_some_iff.mp facts
  obtain ⟨step, found, facts⟩ := Option.map_eq_some_iff.mp facts
  simp only [Prod.mk.injEq] at facts
  obtain ⟨left_out, path⟩ := facts
  have member := List.mem_of_find?_eq_some found
  have scope : step.route.scope = 1 := by simpa using List.find?_some found
  have history := World.History.initial.evaluated (Set.mem_singleton areas) h
  obtain ⟨moments, each⟩ := handler_left_out_iff_repeats history again
  obtain ⟨moment, here, matched⟩ := moments step member
  obtain ⟨earlier, later, course⟩ := List.append_of_mem here
  obtain ⟨last, committed, state, repeats, places⟩ :=
    (each earlier moment later step course matched).mp left_out
  rw [scope] at committed state
  exact ⟨_, world, evaluation, after, step, history, again, member, scope, left_out, earlier,
    moment, later, last, course, committed, state, repeats.1.trans path, places⟩

/-- The items of the sample are not called again when only the area of the page changes. -/
theorem handler_left_out_in_other_area :
    ∃ past world evaluation after earlier moment later step last,
      World.History {areas} past world ∧
      world.eval areas 2 0 "/b/view/1" .empty = some (evaluation, after) ∧
      world.evalCourse areas 2 0 "/b/view/1" .empty = earlier ++ moment :: later ∧
      moment.change = .matched step ∧ step.invoked = false ∧
      lastCommitted step.route.scope (past ++ earlier) = some last ∧
      last.root = "/a/" ∧ step.root = "/b/" ∧ last.place ≠ step.place := by
  have facts : ((World.initial.eval areas 2 0 "/a/view/1" .empty).bind fun first =>
      (first.2.eval areas 2 0 "/b/view/1" .empty).bind fun _ =>
        let past := World.initial.evalCourse areas 2 0 "/a/view/1" .empty
        let course := first.2.evalCourse areas 2 0 "/b/view/1" .empty
        course[2]?.bind fun moment =>
          match moment.change with
          | .matched step =>
            (lastCommitted step.route.scope (past ++ course.take 2)).map fun last =>
              (step.invoked, last.root, step.root, last.place, step.place)
          | _ => none) =
      some (false, "/a/", "/b/", "/a/view/1/", "/b/view/1/") := by
    decide +kernel
  obtain ⟨⟨before, world⟩, h, facts⟩ := Option.bind_eq_some_iff.mp facts
  obtain ⟨⟨evaluation, after⟩, again, facts⟩ := Option.bind_eq_some_iff.mp facts
  obtain ⟨moment, here, facts⟩ := Option.bind_eq_some_iff.mp facts
  split at facts
  · rename_i step matched
    obtain ⟨last, committed, facts⟩ := Option.map_eq_some_iff.mp facts
    simp only [Prod.mk.injEq] at facts
    obtain ⟨left_out, last_root, root, last_place, place⟩ := facts
    obtain ⟨inside, here⟩ := List.getElem?_eq_some_iff.mp here
    have split := List.take_append_drop 2 (world.evalCourse areas 2 0 "/b/view/1" .empty)
    rw [List.drop_eq_getElem_cons inside, here] at split
    have places : last.place ≠ step.place := by
      rw [last_place, place]
      decide
    exact ⟨_, world, evaluation, after, _, moment, _, step, last,
      World.History.initial.evaluated (Set.mem_singleton areas) h, again, split.symm, matched,
      left_out, committed, last_root, root, places⟩
  · cases facts

end ScopedRouting
