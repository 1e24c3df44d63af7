import ScopedRouting.Proofs.Cascade.Selection
import ScopedRouting.Proofs.Scope.Evaluation
import ScopedRouting.Proofs.Scope.Mounting

/-!
# Evaluations stay below their scope

If every scope is only ever mounted by the handlers of one parent, an evaluation step keeps the
links in order and changes no scope outside the subtree of the scope that handles it.
-/
namespace ScopedRouting

section Plan

variable {n : Nat} {mountedOn : Fin n → Option (RouteId n)} {matched : RouteId n}
  {children : List (Fin n)} {child : Fin n}

/-- The children of a scope with the routes that they are mounted on. -/
def mountedChildren (mountedOn : Fin n → Option (RouteId n)) (children : List (Fin n)) :
    List (ActiveChild (Fin n) (RouteId n)) :=
  children.map fun child => ⟨child, mountedOn child⟩

theorem mountedChildren_congr {other : Fin n → Option (RouteId n)}
    (same : ∀ child ∈ children, other child = mountedOn child) :
    mountedChildren other children = mountedChildren mountedOn children := by
  apply List.map_congr_left
  intro child member
  rw [same child member]

/-- The plan is to go on with the first child that is mounted on the matched route, and to
deactivate those that are not mounted on it. -/
theorem ofMatch_eq_filter :
    CascadePlan.ofMatch matched (mountedChildren mountedOn children) =
      ⟨(children.filter (mountedOn · = some matched)).head?,
        children.filter (mountedOn · ≠ some matched)⟩ := by
  simp [CascadePlan.ofMatch_eq, mountedChildren, List.find?_map, List.filter_map, Function.comp_def]

theorem mem_deactivate_iff :
    child ∈ (CascadePlan.ofMatch matched (mountedChildren mountedOn children)).deactivate ↔
      child ∈ children ∧ mountedOn child ≠ some matched := by
  simp [ofMatch_eq_filter]

theorem mem_of_continueWith
    (goes : (CascadePlan.ofMatch matched (mountedChildren mountedOn children)).continueWith =
      some child) : child ∈ children ∧ mountedOn child = some matched := by
  rw [ofMatch_eq_filter] at goes
  simpa using List.mem_of_head? goes

/-- Once the stale children are gone, the plan is to go on with the same child. -/
theorem ofMatch_filter :
    CascadePlan.ofMatch matched
        (mountedChildren mountedOn (children.filter (mountedOn · = some matched))) =
      ⟨(CascadePlan.ofMatch matched (mountedChildren mountedOn children)).continueWith, []⟩ := by
  simp [ofMatch_eq_filter, List.filter_filter]

end Plan

namespace World

variable {n : Nat} {ν : Type} {router : Router n ν} {forest : Forest n} {world : World n ν}
  {matched : RouteId n} {child : Fin n}

theorem plan_eq (matched : RouteId n) (world : World n ν) :
    world.plan matched = CascadePlan.ofMatch matched
      (mountedChildren (fun child => (world.node child).mountedOn)
        (world.node matched.scope).children) :=
  rfl

theorem plan_eq_filter (matched : RouteId n) (world : World n ν) :
    world.plan matched =
      ⟨((world.node matched.scope).children.filter
          fun child => (world.node child).mountedOn = some matched).head?,
        (world.node matched.scope).children.filter
          fun child => (world.node child).mountedOn ≠ some matched⟩ :=
  ofMatch_eq_filter

theorem nodup_stale (linked : world.Linked forest) (matched : RouteId n) :
    (world.plan matched).deactivate.Nodup := by
  rw [plan_eq_filter]
  exact (linked.nodup matched.scope).filter _

theorem mem_stale_iff : child ∈ (world.plan matched).deactivate ↔
    child ∈ (world.node matched.scope).children ∧
      (world.node child).mountedOn ≠ some matched :=
  mem_deactivate_iff

theorem mem_of_goesOn (goes : (world.plan matched).continueWith = some child) :
    child ∈ (world.node matched.scope).children ∧
      (world.node child).mountedOn = some matched :=
  mem_of_continueWith goes

theorem upward_of_stale (linked : world.Linked forest)
    (stale : child ∈ (world.plan matched).deactivate) : forest.upward child = some matched.scope :=
  linked.upward_of_mem (mem_stale_iff.mp stale).1

theorem upward_of_goesOn (linked : world.Linked forest)
    (goes : (world.plan matched).continueWith = some child) :
    forest.upward child = some matched.scope :=
  linked.upward_of_mem (mem_of_goesOn goes).1

/-- Plans depend on the list of the scope and the mount routes of its children. -/
theorem plan_congr {other : World n ν}
    (children : (other.node matched.scope).children = (world.node matched.scope).children)
    (mountedOn : ∀ child ∈ (world.node matched.scope).children,
      (other.node child).mountedOn = (world.node child).mountedOn) :
    other.plan matched = world.plan matched := by
  rw [plan_eq, plan_eq, children, mountedChildren_congr mountedOn]

/-- The children that stay once the stale ones are deactivated. -/
theorem children_clear (router : Router n ν) (matched : RouteId n) (linked : world.Linked forest) :
    ((world.deactivateAll router (world.plan matched).deactivate).node matched.scope).children =
      (world.node matched.scope).children.filter
        fun child => (world.node child).mountedOn = some matched := by
  have stale_link : ∀ stale ∈ (world.plan matched).deactivate,
      forest.upward stale = some matched.scope := fun _ => upward_of_stale linked
  rw [(deactivateAll_spec router linked stale_link).2 matched.scope
    fun stale member => Forest.not_below_parent (stale_link stale member)]
  apply List.filter_congr
  intro child member
  apply decide_eq_decide.mpr
  rw [mem_stale_iff, and_iff_right member, not_not]

/-- What is left of the plan once the stale children are deactivated. -/
theorem plan_deactivateAll (router : Router n ν) (matched : RouteId n)
    (linked : world.Linked forest) :
    (world.deactivateAll router (world.plan matched).deactivate).plan matched =
      ⟨(world.plan matched).continueWith, []⟩ := by
  have stale_link : ∀ stale ∈ (world.plan matched).deactivate,
      forest.upward stale = some matched.scope := fun _ => upward_of_stale linked
  have frame := (deactivateAll_spec router linked stale_link).2
  have children := children_clear router matched linked
  generalize world.deactivateAll router (world.plan matched).deactivate = after at frame children ⊢
  have routes : ∀ child ∈ (after.node matched.scope).children,
      (after.node child).mountedOn = (world.node child).mountedOn := by
    intro child member
    rw [children] at member
    obtain ⟨listed, here⟩ := List.mem_filter.mp member
    rw [frame child]
    intro stale stale_member path
    have same := Forest.sibling_unique (stale_link stale stale_member) (linked.upward_of_mem listed)
      path .self
    subst same
    exact (mem_stale_iff.mp stale_member).2 (of_decide_eq_true here)
  calc after.plan matched
    _ = CascadePlan.ofMatch matched (mountedChildren (fun child => (world.node child).mountedOn)
          (after.node matched.scope).children) := by
        rw [plan_eq, mountedChildren_congr routes]
    _ = ⟨(world.plan matched).continueWith, []⟩ := by
        rw [children]
        exact ofMatch_filter

/-- What an evaluation step on a scope may do to a world. -/
structure Contained (forest : Forest n) (scope : Fin n) (world after : World n ν) : Prop where
  linked : after.Linked forest
  outside : SameOutside forest scope world after
  parent : (after.node scope).parent = (world.node scope).parent
  mountedOn : (after.node scope).mountedOn = (world.node scope).mountedOn

namespace Contained

variable {scope : Fin n} {a b c : World n ν}

theorem refl (linked : a.Linked forest) : Contained forest scope a a :=
  ⟨linked, fun _ _ => rfl, rfl, rfl⟩

theorem trans (first : Contained forest scope a b) (second : Contained forest scope b c) :
    Contained forest scope a c :=
  ⟨second.linked,
    fun other outside => (second.outside other outside).trans (first.outside other outside),
    second.parent.trans first.parent, second.mountedOn.trans first.mountedOn⟩

/-- What a step on a lower scope may do, one on a scope above it may do as well. -/
theorem lift {top : Fin n} (path : Below forest.upward top scope)
    (contained : Contained forest scope a b) : Contained forest top a b := by
  have outside : SameOutside forest top a b := fun other apart =>
    contained.outside other fun lower => apart (path.trans lower)
  by_cases same : top = scope
  · subst same
    exact contained
  · have node := contained.outside top fun up => same (Forest.below_antisymm path up)
    exact ⟨contained.linked, outside, by rw [node], by rw [node]⟩

theorem of_mounted (linked : b.Linked forest) (mounted : Mounted scope a b) :
    Contained forest scope a b := by
  obtain ⟨more, self⟩ := mounted.self
  refine ⟨linked, ?_, by rw [self], by rw [self]⟩
  intro other apart
  have different : other ≠ scope := by
    rintro rfl
    exact apart .self
  rcases mounted.others other different with same | ⟨route, taken⟩
  · exact same
  · have link : forest.upward other = some scope := linked.upward_of_parent (by rw [taken])
    exact False.elim (apart (.under link .self))

end Contained

theorem commit_contained (linked : world.Linked forest) (scope : Fin n) (data : RouteData)
    (root : String) : Contained forest scope world (world.commit scope data root) := by
  refine ⟨LinkedBut.update linked rfl rfl, ?_, ?_, ?_⟩
  · intro other apart
    apply node_commit_other
    rintro rfl
    exact apart .self
  · simp
  · simp

theorem deactivateAll_contained (router : Router n ν) {scope : Fin n} {stale : List (Fin n)}
    (linked : world.Linked forest) (links : ∀ child ∈ stale, forest.upward child = some scope) :
    Contained forest scope world (world.deactivateAll router stale) := by
  obtain ⟨kept, frame⟩ := deactivateAll_spec router linked links
  have self := frame scope fun child member => Forest.not_below_parent (links child member)
  refine ⟨kept, ?_, by rw [self], by rw [self]⟩
  intro other apart
  rw [frame other fun child member path => apart (Below.of_link (links child member) path)]
  have unlisted : (world.node other).children.filter (· ∉ stale) =
      (world.node other).children := by
    apply List.filter_eq_self.mpr
    intro child member
    apply decide_eq_true
    intro gone
    have same := Option.some.inj ((linked.upward_of_mem member).symm.trans (links child gone))
    subst same
    exact apart .self
  rw [unlisted]

theorem clear_contained (router : Router n ν) (matched : RouteId n)
    (linked : world.Linked forest) :
    Contained forest matched.scope world
      (world.deactivateAll router (world.plan matched).deactivate) :=
  deactivateAll_contained router linked fun _ => upward_of_stale linked

/-- Whether the handler of a match only mounts, in good worlds, if it is called. -/
def CallStaysIn (good : World n ν → Prop) (router : Router n ν) (found : Found n ν)
    (data : RouteData) (world : World n ν) : Prop :=
  world.isUnchanged router found data = false →
    ((router.get found.scope).invoker found.entry.handler ⟨found.id, data⟩).StaysIn good router
      found.id (world.record [.invoked found.scope data])

theorem call_of_staysIn (good : World n ν → Prop)
    (recorded : ∀ world events, good world → good (world.record events))
    (navigate : Fin n → String → World n ν → Option (Outcome × World n ν)) {found : Found n ν}
    {data : RouteData} (start : good world) (stays : CallStaysIn good router found data world) :
    ∃ succeeded called, world.call router navigate found data = some (succeeded, called) ∧
      good called ∧ Mounted found.scope world called := by
  unfold call
  split
  · exact ⟨true, world, rfl, start, .of_same_nodes fun _ => rfl⟩
  · rename_i changed
    obtain ⟨succeeded, called, ran, last, mounted⟩ := Program.run_of_staysIn recorded navigate
      (recorded world [.invoked found.scope data] start) (stays (Bool.eq_false_iff.mpr changed))
    have first : Mounted found.scope world (world.record [.invoked found.scope data]) :=
      .of_same_nodes fun _ => rfl
    exact ⟨succeeded, called, ran, last, first.trans mounted⟩

end World

/-- Whether all handlers only mount, and only scopes that belong below their own. -/
def Router.MountsWithin {n : Nat} {ν : Type} (forest : Forest n) (router : Router n ν) : Prop :=
  ∀ scope, ∀ entry ∈ (router.get scope).table.entries, ∀ context : Context n,
    context.scope = scope →
      ((router.get scope).invoker entry.handler context).MountsBelow forest scope

namespace World

variable {n : Nat} {ν : Type} {router : Router n ν} {forest : Forest n} {world : World n ν}
  {found : Found n ν} {request : Request}

/-- Whether an entry stands in the table of its scope. -/
def InTable (router : Router n ν) (found : Found n ν) : Prop :=
  found.entry ∈ (router.get found.scope).table.entries

theorem inTable_of_search {cursor : Cursor} {scope : Fin n}
    (search : world.search router cursor scope = some (some found)) : InTable router found :=
  (accepts_of_find? (find?_of_searchWith search)).1

theorem callStaysIn_of_mountsWithin (mounts : router.MountsWithin forest)
    (inTable : InTable router found) (linked : world.Linked forest) (data : RouteData) :
    CallStaysIn (Linked forest) router found data world := by
  intro _
  exact Program.staysIn_of_mountsBelow
    (mounts found.scope found.entry inTable ⟨found.id, data⟩ rfl) (linked.record _)

theorem call_spec (mounts : router.MountsWithin forest) (inTable : InTable router found)
    (linked : world.Linked forest)
    (navigate : Fin n → String → World n ν → Option (Outcome × World n ν)) (data : RouteData) :
    ∃ succeeded called, world.call router navigate found data = some (succeeded, called) ∧
      called.Linked forest ∧ Mounted found.scope world called :=
  call_of_staysIn (Linked forest) (fun _ events linked => linked.record events) navigate linked
    (callStaysIn_of_mountsWithin mounts inTable linked data)

theorem linked_of_call (mounts : router.MountsWithin forest) (inTable : InTable router found)
    (linked : world.Linked forest)
    {navigate : Fin n → String → World n ν → Option (Outcome × World n ν)} {data : RouteData}
    {succeeded : Bool} {called : World n ν}
    (call : world.call router navigate found data = some (succeeded, called)) :
    called.Linked forest ∧ Mounted found.scope world called := by
  obtain ⟨_, _, call', kept⟩ := call_spec mounts inTable linked navigate data
  cases call.symm.trans call'
  exact kept

/-- What is found is below the scope where the search started. -/
theorem below_of_searchWith (linked : world.Linked forest) {cursor : Cursor} {fuel : Nat}
    {scope : Fin n} (h : world.searchWith router cursor fuel scope = some (some found)) :
    Below forest.upward scope found.scope := by
  induction fuel generalizing scope with
  | zero => cases h
  | succ fuel ih =>
    rw [searchWith] at h
    split at h
    · cases h
      exact .self
    · split at h
      · cases h
      · obtain ⟨child, member, below⟩ := exists_of_findSomeM? h
        exact Below.of_link (linked.upward_of_mem member) (ih below)

/-- Whether handling requests on scopes below a scope stays below them. -/
def HandlesBelow (forest : Forest n) (top : Fin n)
    (handle : Fin n → Request → World n ν → Option (Evaluation n × World n ν)) : Prop :=
  ∀ {child : Fin n} {request : Request} {world after : World n ν} {evaluation : Evaluation n},
    forest.upward child = some top → world.Linked forest →
      handle child request world = some (evaluation, after) → Contained forest child world after

theorem cascade_contained
    {handle : Fin n → Request → World n ν → Option (Evaluation n × World n ν)}
    {matched : RouteId n} (linked : world.Linked forest)
    (below : HandlesBelow forest matched.scope handle) {steps : List (Step n)} {after : World n ν}
    (cascade : world.cascade router handle matched request = some (steps, after)) :
    Contained forest matched.scope world after := by
  have cleared := clear_contained router matched linked
  rcases cascade_cases cascade with ⟨_, _, rfl⟩ | ⟨child, evaluation, goes, handled, _⟩
  · exact cleared
  · have link := upward_of_goesOn linked goes
    exact cleared.trans ((below link cleared.linked handled).lift (.under link .self))

/-- A match that is handled only affects what is below its scope. -/
theorem Handled.contained {handle : Fin n → Request → World n ν → Option (Evaluation n × World n ν)}
    (mounts : router.MountsWithin forest) (inTable : InTable router found)
    (linked : world.Linked forest) (below : HandlesBelow forest found.scope handle)
    {evaluation : Evaluation n} {after : World n ν}
    (handled : Handled router handle found request world evaluation after) :
    Contained forest found.scope world after := by
  have calls : ∀ {data succeeded called}, world.call router (navigateWith router handle) found
      data = some (succeeded, called) → Contained forest found.scope world called := by
    intro data succeeded called call
    obtain ⟨called_linked, mounted⟩ := linked_of_call mounts inTable linked call
    exact .of_mounted called_linked mounted
  cases handled with
  | unreadable _ => exact .refl linked
  | failed _ call => exact calls call
  | passed _ call cascade =>
    have upTo := calls call
    have through := upTo.trans (cascade_contained upTo.linked below cascade)
    exact through.trans (commit_contained through.linked _ _ _)

/-- An evaluation step only affects what is below its scope. -/
theorem handle_contained (mounts : router.MountsWithin forest) {fuel : Nat} {scope : Fin n}
    {after : World n ν} {evaluation : Evaluation n} (linked : world.Linked forest)
    (h : world.handle router fuel scope request = some (evaluation, after)) :
    Contained forest scope world after := by
  induction fuel generalizing scope request world evaluation after with
  | zero => cases h
  | succ fuel ih =>
    obtain ⟨less, same, ⟨_, _, rfl⟩ | ⟨found, search, handled⟩⟩ := handle_cases h
    · exact .refl linked
    · cases same
      have step := handled.contained mounts (inTable_of_search search) linked
        fun _ linked handled => ih linked handled
      exact step.lift (below_of_searchWith linked search)

end World

end ScopedRouting
