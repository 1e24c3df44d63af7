import ScopedRouting.Proofs.Scope.Calls
import ScopedRouting.Proofs.Scope.Circles
import ScopedRouting.Proofs.Scope.Orderly
import ScopedRouting.Proofs.Scope.Reading

/-!
# Evaluations that fail

An evaluation fails before anything is committed or deactivated: nothing matches, or the handler of
the first match does not succeed. What this handler has done by then stays, as nothing takes it
back. A handler that only mounts leaves all matches as they were, but one that deactivates scopes or
evaluates URLs itself may change them before it fails.
-/
namespace ScopedRouting

variable {n : Nat} {ν : Type} {router : Router n ν}

theorem Table.not_accepts_of_find?_eq_none {η : Type} {table : Table η} {cursor : Cursor}
    (nothing : table.find? cursor = none) {entry : Entry η} (member : entry ∈ table.entries) :
    entry.route.accepts cursor = false := by
  obtain ⟨place, inside, rfl⟩ := List.mem_iff_getElem.mp member
  have listed : (table.entries[place], place) ∈ table.entries.zipIdx :=
    List.mk_mem_zipIdx_iff_getElem?.mpr (List.getElem?_eq_getElem inside)
  exact Bool.eq_false_iff.mpr (List.find?_eq_none.mp nothing _ listed)

namespace World

variable {world after : World n ν} {scope : Fin n} {request : Request}
  {evaluation : Evaluation n} {reason : Reason}

/-- Whether the table of a scope is searched for a cursor that is handed to another: the one that is
handed the cursor is searched, and so is all below it unless the cursor is relative. -/
def Searches (world : World n ν) (cursor : Cursor) (top scope : Fin n) : Prop :=
  scope = top ∨ cursor.relative = false ∧ world.LeadsDown top scope

theorem findSomeM?_eq_none {α β : Type} {f : α → Option (Option β)} {list : List α}
    (nothing : list.findSomeM? f = some none) : ∀ a ∈ list, f a = some none := by
  induction list with
  | nil => simp
  | cons first rest ih =>
    rcases findSomeM?_cons_cases nothing with ⟨x, _, found⟩ | ⟨none_first, none_later⟩
    · cases found
    · exact List.forall_mem_cons.mpr ⟨none_first, ih none_later⟩

theorem find?_of_searchWith_none {cursor : Cursor} {fuel : Nat}
    (nothing : world.searchWith router cursor fuel scope = some none) :
    (router.get scope).table.find? cursor = none ∧ (cursor.relative = false →
      ∀ child, world.Lists scope child →
        ∃ less, world.searchWith router cursor less child = some none) := by
  cases fuel with
  | zero => cases nothing
  | succ fuel =>
    rw [searchWith] at nothing
    split at nothing
    · cases nothing
    · rename_i own
      refine ⟨own, fun absolute child listed => ⟨fuel, ?_⟩⟩
      rw [if_neg (Bool.eq_false_iff.mp absolute)] at nothing
      exact findSomeM?_eq_none nothing child listed

/-- A search that finds nothing has asked every table it should. -/
theorem not_accepts_of_search_none {cursor : Cursor} {top : Fin n}
    (nothing : world.search router cursor top = some none)
    (searched : world.Searches cursor top scope) :
    ∀ entry ∈ (router.get scope).table.entries, entry.route.accepts cursor = false := by
  obtain ⟨fuel, here⟩ : ∃ fuel, world.searchWith router cursor fuel scope = some none := by
    rcases searched with rfl | ⟨absolute, down⟩
    · exact ⟨n, nothing⟩
    · induction down with
      | single edge => exact (find?_of_searchWith_none nothing).2 absolute _ edge
      | tail _ edge ih =>
        obtain ⟨fuel, above⟩ := ih
        exact (find?_of_searchWith_none above).2 absolute _ edge
  intro entry member
  exact Table.not_accepts_of_find?_eq_none (find?_of_searchWith_none here).1 member

theorem invoke_of_call_failed
    {navigate : Fin n → String → World n ν → Option (Outcome × World n ν)} {found : Found n ν}
    {data : RouteData} (call : world.call router navigate found data = some (false, after)) :
    world.isUnchanged router found data = false ∧
      world.invoke router navigate found data = some (false, after) := by
  rcases call_cases call with ⟨_, succeeded, _⟩ | invoked
  · cases succeeded
  · exact invoked

end World

/-- What the handler of a match is going to do. -/
def Found.program (router : Router n ν) (found : Found n ν) (data : RouteData) : Program n ν :=
  (router.get found.scope).invoker found.entry.handler ⟨found.id, data⟩

open World

namespace World.Passes

variable {routers : Set (Router n ν)} {a b : World n ν} {moments : List (Moment n ν)}

/-- Only deactivations and commits touch what scopes have matched. -/
theorem state_eq (passes : a.Passes routers moments b)
    (active : ∀ moment ∈ moments, ∀ scope, moment.change ≠ .deactivated scope)
    (uncommitted : ∀ moment ∈ moments, ∀ step, moment.change ≠ .committed step) (other : Fin n) :
    (b.node other).state = (a.node other).state := by
  induction passes with
  | nil _ => rfl
  | @cons router world next after change rest _ first later ih =>
    rw [List.forall_mem_cons] at active uncommitted
    rw [ih active.2 uncommitted.2]
    cases first with
    | noted _ _ => rfl
    | mounted _ parent child route =>
      exact (activate_mounted router parent child route world).state_eq other
    | deactivated _ scope => exact False.elim (active.1 scope rfl)
    | called _ _ _ => rfl
    | skipped _ _ _ => rfl
    | committed _ step => exact False.elim (uncommitted.1 step rfl)

/-- Only matches call handlers. -/
theorem calls_eq (passes : a.Passes routers moments b)
    (unmatched : ∀ moment ∈ moments, ∀ step, moment.change ≠ .matched step) :
    b.calls = a.calls := by
  induction passes with
  | nil _ => rfl
  | @cons router world next after change rest _ first later ih =>
    rw [List.forall_mem_cons] at unmatched
    rw [ih unmatched.2]
    cases first with
    | noted _ what =>
      rw [calls_record]
      exact List.append_nil _
    | mounted _ parent child route => exact calls_activate parent child route world
    | deactivated _ scope => exact calls_deactivateWith _ scope world
    | called _ _ _ => exact False.elim (unmatched.1 _ rfl)
    | skipped _ _ _ => rfl
    | committed _ step => rfl

end World.Passes

/-- An evaluation that fails has committed no step. Either nothing has happened, and if all routes
are compiled then none of the tables that were searched has one that matches. Or the handler of the
first match was called and did not succeed, and everything else that has happened is what this
handler did itself: unless it deactivated a scope or an evaluation of its own committed a match,
every scope has the match that it had, and unless an evaluation of its own found a match, no other
handler was called. -/
theorem failed_evaluation_commits_nothing {world after : World n ν} {fuel : Nat} {scope : Fin n}
    {url : String} {defaults : Values} {evaluation : Evaluation n} {reason : Reason}
    (h : world.eval router fuel scope url defaults = some (evaluation, after))
    (failed : evaluation.outcome = .failure reason) :
    evaluation.steps = [] ∧
    ∃ owner request, world.locate router scope url defaults = some (owner, request) ∧
      ((after = world ∧ world.evalCourse router fuel scope url defaults = [] ∧
        (router.Faithful → reason = .noMatch request.cursor.remainingPath ∧
          ∀ lower, world.Searches request.cursor owner lower →
            ∀ entry ∈ (router.get lower).table.entries,
              entry.route.accepts request.cursor = false)) ∨
      (reason = .handlerFailed ∧ ∃ found step less own, fuel = less + 1 ∧
        world.search router request.cursor owner = some (some found) ∧
        step.route = found.id ∧ step.invoked = true ∧
        (found.program router step.data).run router (navigateWith router (handle router less))
          found.id (world.record [.invoked found.scope step.data]) = some (false, after) ∧
        own = (found.program router step.data).course router
          (navigateWith router (handle router less)) (navigateCourse router (course router less))
          found.id (world.record [.invoked found.scope step.data]) ∧
        world.evalCourse router fuel scope url defaults = ⟨world, .matched step⟩ :: own ∧
        ((∀ moment ∈ own, ∀ other, moment.change ≠ .deactivated other) →
          (∀ moment ∈ own, ∀ other, moment.change ≠ .committed other) →
          ∀ other, (after.node other).state = (world.node other).state) ∧
        ((∀ moment ∈ own, ∀ other, moment.change ≠ .matched other) →
          after.calls = world.calls ++ [(found.scope, step.data)]))) := by
  obtain ⟨owner, request, located, handled⟩ := eval_eq_some_iff.mp h
  have evalCourse_eq : world.evalCourse router fuel scope url defaults =
      world.course router fuel owner request := by
    unfold evalCourse
    rw [located]
  rw [evalCourse_eq]
  obtain ⟨less, rfl, ⟨search, rfl, rfl⟩ | ⟨found, search, handled⟩⟩ := handle_cases handled
  · cases failed
    have nothing : after.course router (less + 1) owner request = [] := by
      simp only [course, search]
    exact ⟨rfl, owner, request, located, .inl ⟨rfl, nothing, fun _ =>
      ⟨rfl, fun lower searched => not_accepts_of_search_none search searched⟩⟩⟩
  · cases handled with
    | unreadable read =>
      cases failed
      have nothing : world.course router (less + 1) owner request = [] := by
        simp only [course, search, matchedCourse, read]
      refine ⟨rfl, owner, request, located, .inl ⟨rfl, nothing, ?_⟩⟩
      intro faithful
      rw [readValues_of_search faithful search] at read
      cases read
    | @failed own cursor called read call =>
      cases failed
      obtain ⟨changed, ran⟩ := invoke_of_call_failed call
      have follows : Follows router (handle router less) (course router less) := passes_of_handle
      have passes := Program.passes_of_run follows.passes_of_navigate ran
      refine ⟨rfl, owner, request, located, .inr ⟨rfl, found,
        found.step router request own cursor world, less, _, rfl, search, rfl, congrArg not changed,
        ran, rfl, ?_, fun active uncommitted => passes.state_eq active uncommitted, ?_⟩⟩
      · have data : (found.step router request own cursor world).data =
          found.data router request own cursor := rfl
        simp only [course, search, matchedCourse, read, data, call, List.append_nil, callCourse,
          changed]
        rfl
      · intro unmatched
        rw [passes.calls_eq unmatched, calls_record]
        rfl
    | passed _ _ _ => cases failed

/-- A sample: a page with a part that mounts another scope and fails. -/
def faulty : Router 2 Unit :=
  .plain "app:/" fun scope =>
    if scope.val = 0 then [("/part/*", fun _ => .mount (.last 1) fun _ => .finish false)] else []

theorem faulty_mountsWithin : faulty.MountsWithin areasForest := by
  apply Router.mountsWithin_plain
  intro scope declaration declared context
  split at declared
  · rename_i page
    cases List.mem_singleton.mp declared
    obtain rfl : scope = 0 := Fin.ext page
    exact ⟨fun _ => rfl, fun _ => trivial⟩
  · cases declared

/-- The part is mounted by the handler that fails, and no match is committed. -/
theorem failed_evaluation_commits_nothing_in_faulty :
    ∃ evaluation after, World.initial.eval faulty 2 0 "/part/x" .empty = some (evaluation, after) ∧
      evaluation.outcome = .failure .handlerFailed ∧ evaluation.steps = [] ∧
      1 ∈ (after.node 0).children ∧ (∀ other, (after.node other).state = {}) ∧
      after.calls.length = 1 := by
  have facts : (World.initial.eval faulty 2 0 "/part/x" .empty).map (fun result =>
      (result.1.outcome, (result.2.node 0).children)) =
      some (.failure .handlerFailed, [1]) := by
    decide +kernel
  obtain ⟨⟨evaluation, after⟩, h, facts⟩ := Option.map_eq_some_iff.mp facts
  obtain ⟨failed, children⟩ := Prod.mk.inj facts
  have listed : 1 ∈ (after.node 0).children := by
    rw [children]
    exact List.mem_singleton_self 1
  obtain ⟨steps, owner, request, _, ⟨rfl, _, _⟩ |
    ⟨_, found, step, less, own, _, search, _, _, _, own_eq, _, states, calls⟩⟩ :=
    failed_evaluation_commits_nothing h failed
  · rw [node_initial] at listed
    cases listed
  · have mounts := (faulty_mountsWithin found.scope found.entry (inTable_of_search search)
      ⟨found.id, step.data⟩ rfl).mountsOnly
    have gentle : ∀ moment ∈ own, ∀ other step, moment.change ≠ .deactivated other ∧
        moment.change ≠ .committed step ∧ moment.change ≠ .matched step := by
      intro moment member other step
      rw [own_eq] at member
      rcases mounts.change_cases member with ⟨_, noted⟩ | ⟨_, _, mounted⟩ <;> simp_all
    refine ⟨evaluation, after, h, failed, steps, listed, ?_, ?_⟩
    · intro other
      rw [states (fun moment member scope => (gentle moment member scope step).1)
        (fun moment member step => (gentle moment member 0 step).2.1), node_initial]
    · rw [calls fun moment member step => (gentle moment member 0 step).2.2]
      rfl

/-- A sample: a page with a home, with a reset that deactivates the page and fails, and with a
detour that evaluates the URL of the home and fails. -/
def meddling : Router 1 Unit :=
  .plain "app:/" fun _ => [("/home", fun _ => .finish true),
    ("/reset", fun _ => .deactivate 0 fun _ => .finish false),
    ("/detour", fun _ => .navigate 0 "/home" fun _ => .finish false)]

/-- What the handler of a failed evaluation has deactivated has lost its match, and where it has
evaluated a URL, another handler was called and a match was committed. -/
theorem failed_evaluation_leaves_what_was_done :
    (∃ past world evaluation after, World.History {meddling} past world ∧
      world.eval meddling 1 0 "/reset" .empty = some (evaluation, after) ∧
      evaluation.outcome = .failure .handlerFailed ∧
      (world.node 0).state.current.isSome = true ∧ (after.node 0).state = {}) ∧
    ∃ evaluation after,
      World.initial.eval meddling 2 0 "/detour" .empty = some (evaluation, after) ∧
      evaluation.outcome = .failure .handlerFailed ∧
      ((World.initial : World 1 Unit).node 0).state.current.isSome = false ∧
      (after.node 0).state.current.isSome = true ∧ after.calls.length = 2 := by
  constructor
  · have facts : ((World.initial.eval meddling 1 0 "/home" .empty).bind fun first =>
        (first.2.eval meddling 1 0 "/reset" .empty).map fun second =>
          (second.1.outcome, (first.2.node 0).state.current.isSome, (second.2.node 0).state)) =
        some (.failure .handlerFailed, true, {}) := by
      decide +kernel
    obtain ⟨⟨first, world⟩, before, facts⟩ := Option.bind_eq_some_iff.mp facts
    obtain ⟨⟨evaluation, after⟩, h, facts⟩ := Option.map_eq_some_iff.mp facts
    simp only [Prod.mk.injEq] at facts
    obtain ⟨failed, remembered, forgotten⟩ := facts
    exact ⟨_, world, evaluation, after,
      World.History.initial.evaluated (Set.mem_singleton _) before, h, failed, remembered,
      forgotten⟩
  · have facts : (World.initial.eval meddling 2 0 "/detour" .empty).map (fun result =>
        (result.1.outcome, (result.2.node 0).state.current.isSome, result.2.calls.length)) =
        some (.failure .handlerFailed, true, 2) := by
      decide +kernel
    obtain ⟨⟨evaluation, after⟩, h, facts⟩ := Option.map_eq_some_iff.mp facts
    simp only [Prod.mk.injEq] at facts
    obtain ⟨failed, committed, calls⟩ := facts
    refine ⟨evaluation, after, h, failed, ?_, committed, calls⟩
    rw [node_initial]
    rfl

end ScopedRouting
