import ScopedRouting.Proofs.Scope.History
import ScopedRouting.Proofs.Scope.Termination

/-!
# Orderly changes

Where handlers only mount scopes that belong below their own, every change of an evaluation is
orderly: a scope is mounted below its parent in the forest, and only a mounted scope is deactivated.
So what orderly changes keep, evaluations keep.
-/
namespace ScopedRouting

variable {n : Nat} {ν : Type} {router : Router n ν} {forest : Forest n}

/-- What a program that only mounts does on the way is to note things down and to mount. -/
theorem Program.MountsOnly.change_cases {may : Fin n → Prop} {route : RouteId n}
    {program : Program n ν} (mounts : program.MountsOnly may)
    {navigate : Fin n → String → World n ν → Option (Outcome × World n ν)}
    {visit : Fin n → String → World n ν → List (Moment n ν)} {world : World n ν}
    {moment : Moment n ν} (member : moment ∈ program.course router navigate visit route world) :
    (∃ what, moment.change = .noted what) ∨
      ∃ child, may child ∧ moment.change = .mounted route.scope child route := by
  induction program generalizing world with
  | finish _ => cases member
  | note what next ih =>
    rcases List.mem_cons.mp member with rfl | later
    · exact .inl ⟨what, rfl⟩
    · exact ih mounts later
  | mount child next ih =>
    rcases List.mem_cons.mp member with rfl | later
    · exact .inr ⟨child, mounts.1, rfl⟩
    · exact ih _ (mounts.2 _) later
  | mountUnder _ _ _ _ _ => exact False.elim mounts
  | deactivate _ _ _ => exact False.elim mounts
  | navigate _ _ _ _ => exact False.elim mounts

/-- Whether a change, if it mounts a scope, mounts it below its parent in the forest. -/
def Moment.MountsAlong (forest : Forest n) (moment : Moment n ν) : Prop :=
  match moment.change with
  | .mounted parent child _ => child ≠ parent → forest.upward child = some parent
  | .noted _ | .deactivated _ | .matched _ | .committed _ => True

/-- Whether a change, if it mounts a scope, mounts it below its parent in the forest, and if it
deactivates one, that scope is mounted. -/
def Moment.Orderly (forest : Forest n) (moment : Moment n ν) : Prop :=
  match moment.change with
  | .mounted parent child _ => child ≠ parent → forest.upward child = some parent
  | .deactivated scope => (moment.world.node scope).parent ≠ none
  | .noted _ | .matched _ | .committed _ => True

theorem Moment.Orderly.mountsAlong {moment : Moment n ν} (orderly : moment.Orderly forest) :
    moment.MountsAlong forest := by
  obtain ⟨world, change⟩ := moment
  cases change with
  | mounted parent child route => exact orderly
  | noted _ => trivial
  | deactivated _ => trivial
  | matched _ => trivial
  | committed _ => trivial

namespace World

variable {world after : World n ν} {found : Found n ν} {request : Request}

theorem Linked.step {moment : Moment n ν} (linked : moment.world.Linked forest)
    (leads : moment.LeadsTo router after) (along : moment.MountsAlong forest) :
    after.Linked forest := by
  cases leads with
  | noted world what => exact linked.record [.noted what]
  | mounted world parent child route =>
    by_cases same : child = parent
    · simpa [same] using linked
    · exact linked.activate (along same) route
  | deactivated world scope => exact (deactivate_spec router linked scope).1
  | called world invoked changed => exact linked.record _
  | skipped world invoked unchanged => exact linked
  | committed world step => exact (commit_contained linked _ _ _).linked

/-- Siblings that are deactivated one after the other are still mounted when it is their turn. -/
theorem orderly_deactivateAllCourse {parent : Fin n} {stale : List (Fin n)}
    (linked : world.Linked forest) (nodup : stale.Nodup)
    (mounted : ∀ child ∈ stale, (world.node child).parent = some parent) :
    ∀ moment ∈ world.deactivateAllCourse router stale, moment.Orderly forest := by
  induction stale generalizing world with
  | nil => exact List.forall_mem_nil _
  | cons child rest ih =>
    obtain ⟨upper, others⟩ := List.forall_mem_cons.mp mounted
    obtain ⟨fresh, rest_nodup⟩ := List.nodup_cons.mp nodup
    obtain ⟨kept, same⟩ := deactivate_spec router linked child
    refine List.forall_mem_cons.mpr ⟨?_, ih kept rest_nodup ?_⟩
    · intro root
      cases upper.symm.trans root
    · intro other member
      rw [same other]
      · exact others other member
      · intro path
        have equal := Forest.sibling_unique (linked.upward_of_parent upper)
          (linked.upward_of_parent (others other member)) path .self
        exact fresh (equal ▸ member)

theorem orderly_callCourse (mounts : router.MountsWithin forest) (inTable : InTable router found)
    {navigate : Fin n → String → World n ν → Option (Outcome × World n ν)}
    {visit : Fin n → String → World n ν → List (Moment n ν)} (step : Step n) :
    ∀ moment ∈ world.callCourse router navigate visit found step, moment.Orderly forest := by
  refine List.forall_mem_cons.mpr ⟨trivial, ?_⟩
  intro moment member
  split at member
  · cases member
  · have below := mounts found.scope found.entry inTable ⟨found.id, step.data⟩ rfl
    obtain ⟨met, change⟩ := moment
    rcases below.mountsOnly.change_cases member with ⟨what, rfl⟩ | ⟨child, link, rfl⟩
    · trivial
    · exact link

/-- All changes of an evaluation step are orderly. -/
theorem orderly_course (mounts : router.MountsWithin forest) {fuel : Nat} {scope : Fin n}
    (linked : world.Linked forest) :
    ∀ moment ∈ world.course router fuel scope request, moment.Orderly forest := by
  induction fuel generalizing scope request world with
  | zero => exact List.forall_mem_nil _
  | succ fuel ih =>
    unfold course
    split
    · rename_i found search
      have inTable := inTable_of_search search
      unfold matchedCourse
      split
      · exact List.forall_mem_nil _
      · rename_i own cursor read
        refine List.forall_mem_append.mpr ⟨orderly_callCourse mounts inTable _, ?_⟩
        split
        · rename_i called call
          obtain ⟨called_linked, _⟩ := linked_of_call mounts inTable linked call
          refine List.forall_mem_append.mpr ⟨List.forall_mem_append.mpr ⟨?_, ?_⟩, ?_⟩
          · apply orderly_deactivateAllCourse called_linked (nodup_stale called_linked found.id)
            intro child stale
            exact called_linked.mem_children_iff.mp (mem_stale_iff.mp stale).1
          · split
            · exact ih (clear_contained router found.id called_linked).linked
            · exact List.forall_mem_nil _
          · split
            · simp [Moment.Orderly]
            · exact List.forall_mem_nil _
        · exact List.forall_mem_nil _
    · exact List.forall_mem_nil _

/-- What orderly changes keep in linked worlds holds throughout an evaluation. -/
theorem throughout_of_handle {holds : World n ν → Prop} (mounts : router.MountsWithin forest)
    (kept : ∀ {router : Router n ν} {moment : Moment n ν} {after}, moment.LeadsTo router after →
      moment.Orderly forest → moment.world.Linked forest → holds moment.world → holds after)
    {fuel : Nat} {scope : Fin n} {evaluation : Evaluation n} (linked : world.Linked forest)
    (start : holds world)
    (h : world.handle router fuel scope request = some (evaluation, after)) :
    Throughout holds (world.course router fuel scope request) after := by
  have both : Throughout (fun world => world.Linked forest ∧ holds world)
      (world.course router fuel scope request) after :=
    (passes_of_handle h).throughout_of_allowed
      (fun leads orderly both =>
        ⟨both.1.step leads orderly.mountsAlong, kept leads orderly both.1 both.2⟩)
      (orderly_course mounts linked) ⟨linked, start⟩
  exact ⟨fun moment member => (both.1 moment member).2, both.2.2⟩

end World

end ScopedRouting
