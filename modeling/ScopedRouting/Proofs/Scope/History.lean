import ScopedRouting.Proofs.Scope.Course

/-!
# Histories

From the world at the beginning others are reached by mounting and deactivating scopes, by
evaluating URLs and by handing requests to scopes, in any order and each with a router of its own,
as hooks and handlers may change in between. A history lists every change on the way, those within
evaluations included.
-/
namespace ScopedRouting.World

variable {n : Nat} {ν : Type}

/-- Whether these moments have led from the beginning to a world. Each operation has its router
among some. -/
inductive History (routers : Set (Router n ν)) : List (Moment n ν) → World n ν → Prop
  | initial : History routers [] .initial
  | mounted {router : Router n ν} {past : List (Moment n ν)} {world : World n ν}
      (member : router ∈ routers) (parent child : Fin n) (route : RouteId n)
      (before : History routers past world) :
      History routers (past ++ [⟨world, .mounted parent child route⟩])
        (world.activate router parent child route).1
  | deactivated {router : Router n ν} {past : List (Moment n ν)} {world : World n ν}
      (member : router ∈ routers) (scope : Fin n) (before : History routers past world) :
      History routers (past ++ [⟨world, .deactivated scope⟩]) (world.deactivate router scope).1
  | evaluated {router : Router n ν} {past : List (Moment n ν)} {world after : World n ν}
      {fuel : Nat} {scope : Fin n} {url : String} {defaults : Values} {evaluation : Evaluation n}
      (member : router ∈ routers) (before : History routers past world)
      (ends : world.eval router fuel scope url defaults = some (evaluation, after)) :
      History routers (past ++ world.evalCourse router fuel scope url defaults) after
  | handled {router : Router n ν} {past : List (Moment n ν)} {world after : World n ν}
      {fuel : Nat} {scope : Fin n} {request : Request} {evaluation : Evaluation n}
      (member : router ∈ routers) (before : History routers past world)
      (ends : world.handle router fuel scope request = some (evaluation, after)) :
      History routers (past ++ world.course router fuel scope request) after

variable {routers : Set (Router n ν)}

theorem History.passes {past : List (Moment n ν)} {world : World n ν}
    (history : History routers past world) : World.initial.Passes routers past world := by
  induction history with
  | initial => exact .nil _
  | mounted member parent child route _ ih =>
    exact ih.append (.single member (.mounted _ parent child route))
  | deactivated member scope _ ih => exact ih.append (.single member (.deactivated _ scope))
  | evaluated member _ ends ih =>
    exact ih.append ((passes_of_eval ends).mono (Set.singleton_subset_iff.mpr member))
  | handled member _ ends ih =>
    exact ih.append ((passes_of_handle ends).mono (Set.singleton_subset_iff.mpr member))

/-- Whether something holds in every world that moments meet and in the world behind them. -/
def Throughout (holds : World n ν → Prop) (moments : List (Moment n ν)) (after : World n ν) :
    Prop :=
  (∀ moment ∈ moments, holds moment.world) ∧ holds after

theorem throughout_nil {holds : World n ν → Prop} {after : World n ν} :
    Throughout holds [] after ↔ holds after := by
  simp [Throughout]

theorem throughout_cons {holds : World n ν → Prop} {moment : Moment n ν}
    {moments : List (Moment n ν)} {after : World n ν} :
    Throughout holds (moment :: moments) after ↔
      holds moment.world ∧ Throughout holds moments after := by
  simp [Throughout, and_assoc]

namespace Passes

variable {a b : World n ν} {moments : List (Moment n ν)}

/-- What every allowed change keeps holds throughout if all changes are allowed. -/
theorem throughout_of_allowed {holds : World n ν → Prop} {allowed : Moment n ν → Prop}
    (kept : ∀ {router : Router n ν} {moment : Moment n ν} {after}, moment.LeadsTo router after →
      allowed moment → holds moment.world → holds after)
    (passes : a.Passes routers moments b) (all : ∀ moment ∈ moments, allowed moment)
    (start : holds a) : Throughout holds moments b := by
  induction passes with
  | nil _ => exact throughout_nil.mpr start
  | cons _ first _ ih =>
    obtain ⟨here, rest⟩ := List.forall_mem_cons.mp all
    exact throughout_cons.mpr ⟨start, ih rest (kept first here start)⟩

/-- What every change keeps holds throughout. -/
theorem throughout_of_kept {holds : World n ν → Prop}
    (kept : ∀ {router : Router n ν} {moment : Moment n ν} {after}, moment.LeadsTo router after →
      holds moment.world → holds after)
    (passes : a.Passes routers moments b) (start : holds a) : Throughout holds moments b :=
  passes.throughout_of_allowed (fun leads _ => kept leads) (fun _ _ => trivial) start

/-- What a change keeps exactly if it is allowed holds throughout exactly if all changes are
allowed. -/
theorem throughout_iff_of_step {sound holds : World n ν → Prop} {allowed : Moment n ν → Prop}
    (kept : ∀ {router : Router n ν} {moment : Moment n ν} {after}, moment.LeadsTo router after →
      sound moment.world → sound after)
    (step : ∀ {router : Router n ν} {moment : Moment n ν} {after}, moment.LeadsTo router after →
      sound moment.world → holds moment.world → (holds after ↔ allowed moment))
    (passes : a.Passes routers moments b) (start : sound a) (holds_start : holds a) :
    Throughout holds moments b ↔ ∀ moment ∈ moments, allowed moment := by
  induction passes with
  | nil _ =>
    rw [throughout_nil]
    simpa using holds_start
  | @cons router world next after change rest _ first later ih =>
    have head := step first start holds_start
    rw [throughout_cons, List.forall_mem_cons]
    constructor
    · rintro ⟨_, rest_holds⟩
      have next_holds : holds next := by
        cases later with
        | nil _ => exact throughout_nil.mp rest_holds
        | cons _ _ _ => exact (throughout_cons.mp rest_holds).1
      exact ⟨head.mp next_holds, (ih (kept first start) next_holds).mp rest_holds⟩
    · rintro ⟨allowed_first, allowed_rest⟩
      exact ⟨holds_start, (ih (kept first start) (head.mpr allowed_first)).mpr allowed_rest⟩

/-- Moments lead up to the world that any one of them meets. -/
theorem upTo {earlier later : List (Moment n ν)} {moment : Moment n ν}
    (passes : a.Passes routers (earlier ++ moment :: later) b) :
    a.Passes routers earlier moment.world ∧ ∃ router ∈ routers, ∃ next,
      moment.LeadsTo router next ∧ next.Passes routers later b := by
  induction earlier generalizing a with
  | nil =>
    cases passes with
    | cons member first later => exact ⟨.nil a, _, member, _, first, later⟩
  | cons _ _ ih =>
    cases passes with
    | cons member first later =>
      obtain ⟨before, behind⟩ := ih later
      exact ⟨.cons member first before, behind⟩

end Passes

end ScopedRouting.World
