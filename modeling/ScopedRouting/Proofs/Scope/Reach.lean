import ScopedRouting.Proofs.Scope.Postorder

/-!
# What a deactivation reaches

Whatever the links are like, a deactivation resets exactly the scopes that are reached by going down
lists. A scope that is listed twice is visited once with its children and a second time without
them, and a circle ends where it comes back to a list that has been taken away.
-/
namespace ScopedRouting

variable {n : Nat} {ν : Type} {router : Router n ν}

namespace World

variable {world after : World n ν} {scope other : Fin n}

/-- Whether a scope is another or is reached from it by going down lists. -/
def ReachesDown (world : World n ν) : Fin n → Fin n → Prop :=
  Relation.ReflTransGen world.Lists

theorem ReachesDown.mono (path : world.ReachesDown scope other)
    (kept : ∀ {parent child}, world.Lists parent child → after.Lists parent child) :
    after.ReachesDown scope other :=
  Relation.ReflTransGen.mono (fun _ _ => kept) _ _ path

theorem lists_of_strip {parent child : Fin n} (edge : (world.strip scope).Lists parent child) :
    world.Lists parent child := by
  unfold Lists at edge ⊢
  rw [node_strip] at edge
  split at edge
  · cases edge
  · exact edge

/-- The way from a scope to another need not come back to the scope. -/
theorem reachesDown_iff_strip : world.ReachesDown scope other ↔
    other = scope ∨
      ∃ child ∈ (world.node scope).children, (world.strip scope).ReachesDown child other := by
  constructor
  · intro path
    induction path with
    | refl => exact .inl rfl
    | @tail upper lower _ edge ih =>
      by_cases back : upper = scope
      · exact .inr ⟨lower, back ▸ edge, .refl⟩
      · obtain ⟨child, listed, path⟩ := ih.resolve_left back
        have kept : (world.strip scope).Lists upper lower := by
          simpa [Lists, back] using edge
        exact .inr ⟨child, listed, path.tail kept⟩
  · rintro (rfl | ⟨child, listed, path⟩)
    · exact .refl
    · exact .head listed (ReachesDown.mono path lists_of_strip)

/-- Taking a scope off its parent takes nothing away that it reaches. -/
theorem reachesDown_detach_iff :
    (world.detach scope).ReachesDown scope other ↔ world.ReachesDown scope other := by
  constructor
  · exact fun path => ReachesDown.mono path mem_of_mem_detach
  · intro path
    induction path with
    | refl => exact .refl
    | @tail upper lower _ edge ih =>
      by_cases back : lower = scope
      · exact back ▸ .refl
      · refine ih.tail ?_
        unfold Lists at edge ⊢
        rw [children_detach]
        split
        · simpa [back] using edge
        · exact edge

/-- If the scopes that have been retired are closed under going down, the others reach what they
reached before. -/
theorem Retired.reachesDown {order : List (Fin n)} (retired : Retired router order world after)
    (closed : ∀ upper ∈ order, ∀ lower, world.Lists upper lower → lower ∈ order)
    (path : world.ReachesDown scope other) : other ∈ order ∨ after.ReachesDown scope other := by
  induction path with
  | refl => exact .inr .refl
  | @tail upper lower _ edge ih =>
    by_cases gone : upper ∈ order
    · exact .inl (closed upper gone lower edge)
    · refine .inr ((ih.resolve_left gone).tail ?_)
      unfold Lists
      rw [retired.node, if_neg gone]
      exact edge

theorem Retired.lists_of_after {order : List (Fin n)} (retired : Retired router order world after)
    {parent child : Fin n} (edge : after.Lists parent child) : world.Lists parent child := by
  unfold Lists at edge ⊢
  rw [retired.node] at edge
  split at edge
  · cases edge
  · exact edge

/-- Tearing scopes down retires exactly what they reach. -/
theorem TornDown.retired {scopes : List (Fin n)} {failed : List FailedBatch}
    (torn : TornDown router scopes world after failed) :
    ∃ order, Retired router order world after ∧
      ∀ other, other ∈ order ↔ ∃ top ∈ scopes, world.ReachesDown top other := by
  induction torn with
  | nil world => exact ⟨[], .nil world, by simp⟩
  | @cons scope rest world inner after _ _ _ _ ih_below ih_later =>
    obtain ⟨lower, below, mem_lower⟩ := ih_below
    obtain ⟨others, later, mem_others⟩ := ih_later
    have first := below.settle
    have mem_first : ∀ other, other ∈ lower ++ [scope] ↔ world.ReachesDown scope other := by
      intro other
      rw [List.mem_append, mem_lower, List.mem_singleton, reachesDown_iff_strip, or_comm]
    have closed : ∀ upper ∈ lower ++ [scope], ∀ next, world.Lists upper next →
        next ∈ lower ++ [scope] := fun upper member next edge =>
      (mem_first next).mpr (((mem_first upper).mp member).tail edge)
    refine ⟨(lower ++ [scope]) ++ others, first.append later, ?_⟩
    intro other
    rw [List.mem_append, mem_first, mem_others, List.exists_mem_cons_iff]
    constructor
    · rintro (own | ⟨top, listed, path⟩)
      · exact .inl own
      · exact .inr ⟨top, listed, ReachesDown.mono path first.lists_of_after⟩
    · rintro (own | ⟨top, listed, path⟩)
      · exact .inl own
      · rcases first.reachesDown closed path with early | late
        · exact .inl ((mem_first other).mp early)
        · exact .inr ⟨top, listed, late⟩

/-- A deactivation leaves the node of a scope that was never mounted wherever it reaches, and takes
the scope off its parent everywhere else. -/
theorem node_deactivate (router : Router n ν) (scope other : Fin n) (world : World n ν) :
    (world.ReachesDown scope other → (world.deactivate router scope).1.node other = {}) ∧
      (¬ world.ReachesDown scope other →
        (world.deactivate router scope).1.node other = (world.detach scope).node other) := by
  obtain ⟨order, retired, mem_iff⟩ := (tornDown_deactivate router scope world).retired
  have member : other ∈ order ↔ world.ReachesDown scope other := by
    rw [mem_iff, ← reachesDown_detach_iff]
    simp
  constructor
  · intro reached
    rw [retired.node, if_pos (member.mpr reached)]
  · intro outside
    rw [retired.node, if_neg (mt member.mp outside)]

end World

namespace Moment

variable {moment : Moment n ν} {after : World n ν} {scope : Fin n}

/-- Whether a change deactivates a scope, by itself or with another that reaches it. -/
def Deactivates (moment : Moment n ν) (scope : Fin n) : Prop :=
  ∃ top, moment.change = .deactivated top ∧ moment.world.ReachesDown top scope

theorem LeadsTo.eq_deactivate (leads : moment.LeadsTo router after) {top : Fin n}
    (change : moment.change = .deactivated top) :
    after = (moment.world.deactivate router top).1 := by
  cases leads <;> cases change
  rfl

/-- A scope that has just been deactivated has the node of a scope that was never mounted. -/
theorem LeadsTo.node_of_deactivates (leads : moment.LeadsTo router after)
    (deactivates : moment.Deactivates scope) : after.node scope = {} := by
  obtain ⟨top, change, reached⟩ := deactivates
  rw [leads.eq_deactivate change]
  exact (World.node_deactivate router top scope moment.world).1 reached

end Moment

end ScopedRouting
