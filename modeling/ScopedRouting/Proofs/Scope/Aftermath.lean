import ScopedRouting.Proofs.Scope.Conservation
import ScopedRouting.Proofs.Scope.Reach
import ScopedRouting.Proofs.Scope.Skipping

/-!
# What is left of a deactivated scope

Handlers deactivate scopes while an evaluation is under way, their own scope and those above it
among them. The links that this takes away stay away until a mount enters them again. The match
does not: a match is committed behind its handler and behind the whole cascade below it, whatever
has become of its scope by then.
-/
namespace ScopedRouting

variable {n : Nat} {ν : Type} {router : Router n ν}

/-- Whether a change mounts a scope below another. -/
def Moment.Mounts (moment : Moment n ν) (scope : Fin n) : Prop :=
  ∃ parent route, moment.change = .mounted parent scope route ∧ scope ≠ parent

namespace World

variable {world after : World n ν} {scope : Fin n}

/-- Whether a scope has neither a parent nor a route that it is mounted on. -/
def Unmounted (world : World n ν) (scope : Fin n) : Prop :=
  (world.node scope).parent = none ∧ (world.node scope).mountedOn = none

/-- Only a mount gives a scope its links. -/
theorem Unmounted.step {moment : Moment n ν} (unmounted : moment.world.Unmounted scope)
    (leads : moment.LeadsTo router after) (left : ¬ moment.Mounts scope) :
    after.Unmounted scope := by
  cases leads with
  | noted _ _ => exact unmounted
  | mounted world parent child route =>
    by_cases same : child = parent
    · simpa [same] using unmounted
    · have other : scope ≠ child := by
        rintro rfl
        exact left ⟨parent, route, rfl, same⟩
      simpa [Unmounted, same, other] using unmounted
  | deactivated world top =>
    obtain ⟨inside, outside⟩ := node_deactivate router top scope world
    by_cases reached : world.ReachesDown top scope
    · simp [Unmounted, inside reached]
    · have detached := outside reached
      by_cases mine : scope = top
      · subst mine
        simp [Unmounted, detached]
      · simpa [Unmounted, detached, mine] using unmounted
  | called _ _ _ => exact unmounted
  | skipped _ _ _ => exact unmounted
  | committed world step =>
    simpa [Unmounted] using unmounted

theorem Passes.unmounted {routers : Set (Router n ν)} {moments : List (Moment n ν)}
    (passes : world.Passes routers moments after) (left : ∀ moment ∈ moments, ¬ moment.Mounts scope)
    (unmounted : world.Unmounted scope) : after.Unmounted scope := by
  induction passes with
  | nil _ => exact unmounted
  | cons _ first _ ih =>
    obtain ⟨here, rest⟩ := List.forall_mem_cons.mp left
    exact ih rest (Unmounted.step unmounted first here)

/-- Only a mount puts a scope on a list. -/
theorem listed_or_mounted {moment : Moment n ν} {child : Fin n}
    (leads : moment.LeadsTo router after) (listed : child ∈ (after.node scope).children) :
    child ∈ (moment.world.node scope).children ∨
      ∃ route, moment.change = .mounted scope child route := by
  cases leads with
  | noted _ _ => exact .inl listed
  | mounted world parent lower route =>
    by_cases same : lower = parent
    · exact .inl (by simpa [same] using listed)
    · refine ((mem_children_activate same route scope child).mp listed).imp_right ?_
      rintro ⟨rfl, rfl⟩
      exact ⟨route, rfl⟩
  | deactivated _ _ => exact .inl (mem_of_mem_deactivate listed)
  | called _ _ _ => exact .inl listed
  | skipped _ _ _ => exact .inl listed
  | committed world step =>
    exact .inl (by simpa using listed)

theorem Passes.listed_or_mounted {routers : Set (Router n ν)} {moments : List (Moment n ν)}
    {child : Fin n} (passes : world.Passes routers moments after)
    (listed : child ∈ (after.node scope).children) :
    child ∈ (world.node scope).children ∨
      ∃ moment ∈ moments, ∃ route, moment.change = .mounted scope child route := by
  induction passes with
  | nil _ => exact .inl listed
  | cons _ first _ ih =>
    rcases ih listed with before | ⟨moment, member, mounted⟩
    · refine (World.listed_or_mounted first before).imp_right fun mounted => ?_
      exact ⟨_, List.mem_cons_self, mounted⟩
    · exact .inr ⟨moment, List.mem_cons_of_mem _ member, mounted⟩

/-- A scope that is not deactivated has the state that a change commits for it, or keeps its
own. -/
theorem state_of_step {moment : Moment n ν} (leads : moment.LeadsTo router after)
    (left : ¬ moment.Deactivates scope) :
    (after.node scope).state = (moment.change.committed? scope).elim
      (moment.world.node scope).state fun step => ⟨some step.data, step.root⟩ := by
  cases leads with
  | noted _ _ => rfl
  | mounted world parent child route =>
    exact (activate_mounted router parent child route world).state_eq scope
  | deactivated world top =>
    have outside : ¬ world.ReachesDown top scope := fun reached => left ⟨top, rfl, reached⟩
    rw [(node_deactivate router top scope world).2 outside, state_detach]
    rfl
  | called _ _ _ => rfl
  | skipped _ _ _ => rfl
  | committed world step =>
    by_cases own : step.route.scope = scope
    · simp [Change.committed?, own]
    · simp [Change.committed?, own, Ne.symm own]

theorem Passes.state_of_last {routers : Set (Router n ν)} {moments : List (Moment n ν)}
    (passes : world.Passes routers moments after)
    (left : ∀ moment ∈ moments, ¬ moment.Deactivates scope) :
    (after.node scope).state = (lastCommitted scope moments).elim
      (world.node scope).state fun step => ⟨some step.data, step.root⟩ := by
  induction passes with
  | nil _ => rfl
  | cons _ first _ ih =>
    obtain ⟨here, rest⟩ := List.forall_mem_cons.mp left
    rw [ih rest, lastCommitted_cons, state_of_step first here]
    cases lastCommitted scope _ <;> rfl

/-- The course of an evaluation ends with the commits of its steps, from the bottom up. -/
theorem course_ends_with_commits {fuel : Nat} {request : Request} {evaluation : Evaluation n}
    (h : world.handle router fuel scope request = some (evaluation, after)) :
    ∃ front, (world.course router fuel scope request).map Moment.change =
      front ++ evaluation.steps.reverse.map .committed := by
  induction fuel generalizing scope request world evaluation after with
  | zero => cases h
  | succ fuel ih =>
    obtain ⟨less, same, ⟨_, rfl, _⟩ | ⟨found, search, handled⟩⟩ := handle_cases h
    · exact ⟨_, (List.append_nil _).symm⟩
    · cases same
      cases handled with
      | unreadable _ => exact ⟨_, (List.append_nil _).symm⟩
      | failed _ _ => exact ⟨_, (List.append_nil _).symm⟩
      | @passed own cursor called cascaded below read call cascade =>
        have own_data : (found.step router request own cursor world).data =
          found.data router request own cursor := rfl
        simp only [course, search, matchedCourse, read, own_data, call, cascade, cascadeCourse]
        rcases cascade_cases cascade with ⟨ends, rfl, _⟩ | ⟨child, evaluation, goes, handled, rfl⟩
        · simp only [ends, List.map_append, ← List.append_assoc]
          exact ⟨_, rfl⟩
        · obtain ⟨front, lower⟩ := ih handled
          simp only [goes, List.map_append, lower, List.reverse_cons, ← List.append_assoc]
          exact ⟨_, rfl⟩

theorem filterMap_committed? (scope : Fin n) (steps : List (Step n)) :
    (steps.map (Change.committed : Step n → Change n ν)).filterMap (Change.committed? scope) =
      steps.filter (·.route.scope = scope) := by
  rw [List.filterMap_map, ← List.filterMap_eq_filter]
  congr 1
  funext step
  simp [Change.committed?, Option.guard]

/-- What a scope commits last is its topmost step, or something in front if it has none. -/
theorem lastCommitted_of_changes {moments : List (Moment n ν)} {front : List (Change n ν)}
    {steps : List (Step n)}
    (changes : moments.map Moment.change = front ++ steps.reverse.map .committed) :
    lastCommitted scope moments = (steps.find? (·.route.scope = scope)).or
      (front.filterMap (Change.committed? scope)).getLast? := by
  have all : moments.filterMap (·.change.committed? scope) =
      (moments.map Moment.change).filterMap (Change.committed? scope) := by
    rw [List.filterMap_map]
    rfl
  rw [lastCommitted, all, changes, List.filterMap_append, filterMap_committed?,
    List.filter_reverse, List.getLast?_append, List.getLast?_reverse, List.head?_filter]

/-- The commits of the steps come behind everything else. -/
theorem changes_behind {moments earlier later : List (Moment n ν)} {moment : Moment n ν}
    {front : List (Change n ν)} {steps : List (Step n)}
    (changes : moments.map Moment.change = front ++ steps.map .committed)
    (split : moments = earlier ++ moment :: later)
    (other : ∀ step, moment.change ≠ .committed step) :
    ∃ rest, later.map Moment.change = rest ++ steps.map .committed := by
  rw [split, List.map_append, List.map_cons] at changes
  have outside : moment.change ∉ steps.map Change.committed := by
    intro member
    obtain ⟨step, _, same⟩ := List.mem_map.mp member
    exact other step same.symm
  rcases List.append_eq_append_iff.mp changes with ⟨more, _, behind⟩ | ⟨more, _, behind⟩
  · cases more with
    | nil =>
      rw [List.nil_append] at behind
      exact absurd (behind ▸ List.mem_cons_self) outside
    | cons change rest => exact ⟨rest, (List.cons.inj behind).2⟩
  · exact absurd (behind ▸ List.mem_append_right more List.mem_cons_self) outside

end World

open World

/-- What an evaluation leaves of a scope that it has deactivated. Its links stay away unless it is
mounted again, and its children are those that have been mounted below it since. Its state is that
of a scope that has never matched only if nothing has been committed for it since it was last
deactivated, and otherwise the last match that was. All steps of an evaluation are committed behind
all deactivations, so that each scope of its cascade is left with its match. -/
theorem deactivated_scope_afterwards {router : Router n ν} {world after : World n ν} {fuel : Nat}
    {scope : Fin n} {url : String} {defaults : Values} {evaluation : Evaluation n}
    (h : world.eval router fuel scope url defaults = some (evaluation, after))
    {target : Fin n} {earlier later : List (Moment n ν)} {moment : Moment n ν}
    (split : world.evalCourse router fuel scope url defaults = earlier ++ moment :: later)
    (deactivated : moment.Deactivates target) :
    ((∀ other ∈ later, ¬ other.Mounts target) →
      (after.node target).parent = none ∧ (after.node target).mountedOn = none) ∧
    (∀ child ∈ (after.node target).children, ∃ other ∈ later, ∃ route,
      other.change = .mounted target child route) ∧
    ((∀ other ∈ later, ¬ other.Deactivates target) →
      (after.node target).state = (lastCommitted target later).elim {} fun step =>
        ⟨some step.data, step.root⟩) ∧
    ∀ step, evaluation.steps.find? (·.route.scope = target) = some step →
      lastCommitted target later = some step ∧
        (after.node target).state = ⟨some step.data, step.root⟩ := by
  have passes := passes_of_eval h
  rw [split] at passes
  obtain ⟨_, _, _, next, leads, behind⟩ := passes.upTo
  have reset : next.node target = {} := leads.node_of_deactivates deactivated
  refine ⟨?_, ?_, ?_, ?_⟩
  · intro left
    have start : next.Unmounted target := by
      unfold Unmounted
      rw [reset]
      exact ⟨rfl, rfl⟩
    exact behind.unmounted left start
  · intro child listed
    refine (behind.listed_or_mounted listed).resolve_left ?_
    rw [reset]
    exact List.not_mem_nil
  · intro left
    rw [behind.state_of_last left, reset]
  · intro step first
    obtain ⟨owner, request, located, handled⟩ := eval_eq_some_iff.mp h
    unfold evalCourse at split
    rw [located] at split
    obtain ⟨front, changes⟩ := course_ends_with_commits handled
    obtain ⟨top, change, _⟩ := deactivated
    obtain ⟨rest, last⟩ := changes_behind changes split fun step same => by
      cases change.symm.trans same
    have committed : lastCommitted target later = some step := by
      rw [lastCommitted_of_changes last, first, Option.some_or]
    exact ⟨committed, state_of_handle handled first⟩

/-- A sample: the items below an area of a page may deactivate the page. -/
def resetting : Router 2 Unit :=
  .plain "app:/" fun scope =>
    if scope.val = 0 then [("/:area/*", fun _ => .mount (.last 1) fun _ => .finish true)]
    else [("~/reset", fun _ => .deactivate ⟨0, Nat.two_pos⟩ fun _ => .finish true)]

/-- In the sample, only commits follow when the page and the items have been deactivated. -/
theorem resetting_course :
    ∃ evaluation after step earlier moment later,
      World.initial.eval resetting 2 0 "/a/reset" .empty = some (evaluation, after) ∧
      evaluation.outcome.isSuccess = true ∧
      evaluation.steps.find? (·.route.scope = 1) = some step ∧ step.data.path = "/reset/" ∧
      step.root = "/a/" ∧
      World.initial.evalCourse resetting 2 0 "/a/reset" .empty = earlier ++ moment :: later ∧
      moment.Deactivates 0 ∧ moment.Deactivates 1 ∧
      ∀ other ∈ later, ∃ step, other.change = .committed step := by
  let course := World.initial.evalCourse resetting 2 0 "/a/reset" .empty
  have facts : ((World.initial.eval resetting 2 0 "/a/reset" .empty).bind fun result =>
      (result.1.steps.find? (·.route.scope = 1)).bind fun step => course[3]?.bind fun moment =>
        match moment.change with
        | .deactivated top => some (result.1.outcome.isSuccess, step.data.path, step.root, top,
            (moment.world.node 0).children)
        | _ => none) = some (true, "/reset/", "/a/", 0, [1]) := by
    decide +kernel
  have ends : ∀ other ∈ course.drop 4, ∃ step, other.change = .committed step := by
    have commits : (course.drop 4).all (fun other =>
        match other.change with
        | .committed _ => true
        | _ => false) = true := by
      decide +kernel
    intro other member
    have committed := List.all_eq_true.mp commits other member
    split at committed
    · rename_i step same
      exact ⟨step, same⟩
    · cases committed
  obtain ⟨⟨evaluation, after⟩, h, facts⟩ := Option.bind_eq_some_iff.mp facts
  obtain ⟨step, first, facts⟩ := Option.bind_eq_some_iff.mp facts
  obtain ⟨moment, here, facts⟩ := Option.bind_eq_some_iff.mp facts
  split at facts
  · rename_i top change
    simp only [Option.some.injEq, Prod.mk.injEq] at facts
    obtain ⟨success, path, root, rfl, children⟩ := facts
    obtain ⟨inside, here⟩ := List.getElem?_eq_some_iff.mp here
    have split := List.take_append_drop 3 course
    rw [List.drop_eq_getElem_cons inside, here] at split
    have lists : moment.world.Lists 0 1 := by
      unfold World.Lists
      rw [children]
      exact List.mem_singleton_self 1
    exact ⟨evaluation, after, step, _, moment, _, h, success, first, path, root, split.symm,
      ⟨0, change, .refl⟩, ⟨0, change, .single lists⟩, ends⟩
  · cases facts

theorem deactivated_scope_afterwards_in_resetting :
    ∃ evaluation after earlier moment later step,
      World.initial.eval resetting 2 0 "/a/reset" .empty = some (evaluation, after) ∧
      World.initial.evalCourse resetting 2 0 "/a/reset" .empty = earlier ++ moment :: later ∧
      moment.Deactivates 1 ∧ (after.node 1).parent = none ∧ (after.node 1).mountedOn = none ∧
      (after.node 1).children = [] ∧ lastCommitted 1 later = some step ∧
      (after.node 1).state = ⟨some step.data, "/a/"⟩ ∧ step.data.path = "/reset/" := by
  obtain ⟨evaluation, after, step, earlier, moment, later, h, _, first, path, root, split, _,
    deactivated, commits⟩ := resetting_course
  obtain ⟨links, children, _, state⟩ := deactivated_scope_afterwards h split deactivated
  obtain ⟨parent, mountedOn⟩ := links fun other member mounts => by
    obtain ⟨_, _, mounted, _⟩ := mounts
    obtain ⟨step, committed⟩ := commits other member
    cases mounted.symm.trans committed
  obtain ⟨last, state⟩ := state step first
  refine ⟨evaluation, after, earlier, moment, later, step, h, split, deactivated, parent,
    mountedOn, ?_, last, root ▸ state, path⟩
  rw [List.eq_nil_iff_forall_not_mem]
  intro child listed
  obtain ⟨other, member, route, mounted⟩ := children child listed
  obtain ⟨step, committed⟩ := commits other member
  cases mounted.symm.trans committed

/-- The items of the sample deactivate the page above them, and nothing is mounted again. Still the
page and the items have a match afterwards. -/
theorem deactivated_scope_remembers_match :
    ∃ evaluation after earlier moment later,
      World.initial.eval resetting 2 0 "/a/reset" .empty = some (evaluation, after) ∧
      evaluation.outcome.isSuccess = true ∧
      World.initial.evalCourse resetting 2 0 "/a/reset" .empty = earlier ++ moment :: later ∧
      moment.Deactivates 0 ∧ moment.Deactivates 1 ∧
      (∀ other ∈ later, ¬ other.Mounts 0 ∧ ¬ other.Mounts 1) ∧
      (after.node 0).state.current.isSome = true ∧ (after.node 1).state.current.isSome = true := by
  obtain ⟨evaluation, after, _, earlier, moment, later, h, success, _, _, _, split, page, items,
    commits⟩ := resetting_course
  have facts : (World.initial.eval resetting 2 0 "/a/reset" .empty).map (fun result =>
      ((result.2.node 0).state.current.isSome, (result.2.node 1).state.current.isSome)) =
      some (true, true) := by
    decide +kernel
  rw [h] at facts
  obtain ⟨upper, lower⟩ := Prod.mk.inj (Option.some.inj facts)
  refine ⟨evaluation, after, earlier, moment, later, h, success, split, page, items, ?_, upper,
    lower⟩
  intro other member
  obtain ⟨step, committed⟩ := commits other member
  constructor <;>
  · rintro ⟨_, _, mounted, _⟩
    cases mounted.symm.trans committed

end ScopedRouting
