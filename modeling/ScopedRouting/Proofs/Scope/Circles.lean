import ScopedRouting.Proofs.Scope.Agreement
import ScopedRouting.Proofs.Scope.Termination
import Mathlib.Logic.Relation

/-!
# Circles of scopes

A scope refuses to be its own child, and nothing else is asked when a scope is mounted. So lists go
round in a circle exactly after a mount below a scope that the mounted scope leads down to. As long
as none does, the way up from a scope, the search below it and the evaluation of its URLs all end.
Deactivation ends in any case.
-/
namespace ScopedRouting

variable {n : Nat} {ν : Type} {router : Router n ν} {world after : World n ν}

section Relation

open Relation

variable {r more : Fin n → Fin n → Prop} {top bottom : Fin n}

/-- A path over one more edge goes around it, or up to it and on behind it. -/
theorem transGen_of_added (added : ∀ {a b}, more a b → r a b ∨ a = top ∧ b = bottom)
    {a b : Fin n} (path : TransGen more a b) :
    TransGen r a b ∨ ReflTransGen r a top ∧ ReflTransGen r bottom b := by
  induction path with
  | single edge =>
    rcases added edge with old | ⟨rfl, rfl⟩
    · exact .inl (.single old)
    · exact .inr ⟨.refl, .refl⟩
  | tail _ edge ih =>
    rcases added edge with old | ⟨rfl, rfl⟩
    · rcases ih with around | ⟨up, behind⟩
      · exact .inl (around.tail old)
      · exact .inr ⟨up, behind.tail old⟩
    · rcases ih with around | ⟨up, _⟩
      · exact .inr ⟨around.to_reflTransGen, .refl⟩
      · exact .inr ⟨up, .refl⟩

/-- A relation without circles ranks scopes below their number. -/
theorem exists_rank_of_acyclic (acyclic : ∀ scope, ¬ TransGen r scope scope) :
    ∃ rank : Fin n → Nat, (∀ scope, rank scope < n) ∧ ∀ a b, r a b → rank a < rank b := by
  classical
  refine ⟨fun scope => (Finset.univ.filter fun top => TransGen r top scope).card,
    card_before_lt (TransGen r) acyclic, ?_⟩
  intro a b edge
  exact card_before_lt_card_before (TransGen r) acyclic TransGen.trans (.single edge)

theorem acyclic_of_rank {rank : Fin n → Nat} (up : ∀ a b, r a b → rank a < rank b)
    (scope : Fin n) : ¬ TransGen r scope scope := by
  have higher : ∀ {a b}, TransGen r a b → rank a < rank b := by
    intro a b path
    induction path with
    | single edge => exact up _ _ edge
    | tail _ edge ih => exact Nat.lt_trans ih (up _ _ edge)
  intro circle
  exact Nat.lt_irrefl _ (higher circle)

end Relation

namespace World

/-- Whether a scope is in the list of another. -/
def Lists (world : World n ν) (parent child : Fin n) : Prop :=
  child ∈ (world.node parent).children

/-- Whether a scope is reached from another by going down lists, one at least. -/
def LeadsDown (world : World n ν) : Fin n → Fin n → Prop :=
  Relation.TransGen world.Lists

/-- Whether no scope is its own descendant. -/
def Acyclic (world : World n ν) : Prop :=
  ∀ scope, ¬ world.LeadsDown scope scope

theorem Acyclic.of_fewer (acyclic : world.Acyclic)
    (fewer : ∀ parent child, after.Lists parent child → world.Lists parent child) :
    after.Acyclic := by
  intro scope circle
  exact acyclic scope (Relation.TransGen.mono fewer _ _ circle)

theorem acyclic_iff_ranked :
    world.Acyclic ↔ ∃ rank : Fin n → Nat, (∀ scope, rank scope < n) ∧ world.Ranked rank := by
  constructor
  · exact exists_rank_of_acyclic
  · rintro ⟨rank, _, ranked⟩
    exact acyclic_of_rank ranked

/-- Mounting closes a circle exactly if the child leads down to its parent. -/
theorem Acyclic.activate_iff (acyclic : world.Acyclic) {parent child : Fin n}
    (different : child ≠ parent) (route : RouteId n) :
    (world.activate router parent child route).1.Acyclic ↔ ¬ world.LeadsDown child parent := by
  have lists : ∀ upper lower, (world.activate router parent child route).1.Lists upper lower ↔
      world.Lists upper lower ∨ (lower = child ∧ upper = parent) :=
    mem_children_activate different route
  constructor
  · intro still down
    have old : (world.activate router parent child route).1.LeadsDown child parent :=
      Relation.TransGen.mono (fun upper lower edge => (lists upper lower).mpr (.inl edge)) _ _ down
    exact still child (old.tail ((lists parent child).mpr (.inr ⟨rfl, rfl⟩)))
  · intro apart scope circle
    have added : ∀ {upper lower}, (world.activate router parent child route).1.Lists upper lower →
        world.Lists upper lower ∨ upper = parent ∧ lower = child := by
      intro upper lower edge
      exact ((lists upper lower).mp edge).imp_right And.symm
    rcases transGen_of_added added circle with old | ⟨up, behind⟩
    · exact acyclic scope old
    · rcases Relation.reflTransGen_iff_eq_or_transGen.mp (behind.trans up) with same | down
      · exact different same.symm
      · exact apart down

end World

/-- Whether a change, if it mounts a scope, mounts it below none that it leads down to. -/
def Moment.ClosesNone (moment : Moment n ν) : Prop :=
  match moment.change with
  | .mounted parent child _ => child ≠ parent → ¬ moment.world.LeadsDown child parent
  | _ => True

namespace World

theorem acyclic_initial : (World.initial : World n ν).Acyclic := by
  refine acyclic_iff_ranked.mpr ⟨fun scope => scope.val, fun scope => scope.isLt, ?_⟩
  intro parent child member
  simp at member

/-- Only mounts close circles. -/
theorem Acyclic.step_iff {moment : Moment n ν} (acyclic : moment.world.Acyclic)
    (leads : moment.LeadsTo router after) : after.Acyclic ↔ moment.ClosesNone := by
  cases leads with
  | noted world what => exact iff_of_true acyclic trivial
  | mounted world parent child route =>
    by_cases different : child = parent
    · rw [different, activate_self]
      exact iff_of_true acyclic fun other => False.elim (other rfl)
    · rw [acyclic.activate_iff different]
      constructor
      · intro apart _
        exact apart
      · intro apart
        exact apart different
  | deactivated world scope =>
    exact iff_of_true (acyclic.of_fewer fun _ _ => mem_of_mem_deactivate) trivial
  | called world invoked changed => exact iff_of_true acyclic trivial
  | skipped world invoked unchanged => exact iff_of_true acyclic trivial
  | committed world step =>
    refine iff_of_true (acyclic.of_fewer ?_) trivial
    intro parent child edge
    simpa [Lists] using edge

/-- In a world without circles the way up ends at a scope without a parent. -/
theorem Acyclic.exists_root (acyclic : world.Acyclic) (attached : world.Attached fun _ => False)
    (scope : Fin n) : ∃ top, world.root? scope = some top ∧ (world.node top).parent = none := by
  obtain ⟨rank, bounded, ranked⟩ := acyclic_iff_ranked.mp acyclic
  apply World.exists_root bounded
  intro parent child upper
  exact ranked parent child ((attached.listed upper).resolve_right id)

theorem Acyclic.exists_search (acyclic : world.Acyclic) (router : Router n ν) (cursor : Cursor)
    (scope : Fin n) : ∃ answer, world.search router cursor scope = some answer := by
  obtain ⟨rank, bounded, ranked⟩ := acyclic_iff_ranked.mp acyclic
  exact ranked.exists_searchWith bounded router cursor (Nat.le_add_right n (rank scope))

/-- Ranks may be replaced by ranks in the same order that are below the number of scopes. -/
theorem Ranked.exists_handle_of_le {rank : Fin n → Nat} (ranked : world.Ranked rank)
    (mounts : router.MountsUp rank) {fuel : Nat} (enough : n ≤ fuel) (scope : Fin n)
    (request : Request) : ∃ result, world.handle router fuel scope request = some result := by
  obtain ⟨low, bounded, grows⟩ : ∃ low : Fin n → Nat, (∀ scope, low scope < n) ∧
      ∀ a b, rank a < rank b → low a < low b :=
    exists_rank_of_acyclic (acyclic_of_rank fun _ _ => id)
  have low_ranked : world.Ranked low := fun parent child member =>
    grows parent child (ranked parent child member)
  exact low_ranked.exists_handle (mounts.mono grows) bounded (Nat.le_add_right_of_le enough)

theorem not_leadsDown_of_leaf {scope : Fin n} (leaf : (world.node scope).children = [])
    (other : Fin n) : ¬ world.LeadsDown scope other := by
  intro down
  obtain ⟨child, edge, _⟩ := Relation.TransGen.head'_iff.mp down
  rw [Lists, leaf] at edge
  cases edge

/-- The way up does not leave scopes all of whose parents are among them. -/
theorem climb?_of_circle {among : Fin n → Prop}
    (around : ∀ scope, among scope →
      ∃ parent, (world.node scope).parent = some parent ∧ among parent)
    (fuel : Nat) {scope : Fin n} (start : among scope) : world.climb? fuel scope = none := by
  induction fuel generalizing scope with
  | zero =>
    obtain ⟨parent, upper, _⟩ := around scope start
    unfold climb?
    rw [upper]
  | succ fuel ih =>
    obtain ⟨parent, upper, stays⟩ := around scope start
    rw [climb?_of_parent upper]
    exact ih stays

end World

open World

/-- In every history, no scope becomes its own descendant exactly if no scope is mounted below one
that it leads down to. Without circles the way up from every scope and the search below it end. An
evaluation ends if its handlers only mount in an order that the lists follow, and there is one if
there is no circle. The depth of a deactivation is bounded in any case. -/
theorem circles_close_only_by_mounts {routers : Set (Router n ν)} {past : List (Moment n ν)}
    (history : History routers past world) (router : Router n ν) :
    (Throughout Acyclic past world ↔ ∀ moment ∈ past, moment.ClosesNone) ∧
    (world.Acyclic → ∀ scope,
      (∃ top, world.root? scope = some top ∧ (world.node top).parent = none) ∧
      ∀ cursor, ∃ answer, world.search router cursor scope = some answer) ∧
    (world.Acyclic ↔ ∃ rank, world.Ranked rank) ∧
    (∀ rank, world.Ranked rank → router.MountsUp rank → ∀ fuel scope request, n ≤ fuel →
      ∃ result, world.handle router fuel scope request = some result) ∧
    ∀ fuel scope, world.links < fuel →
      deactivateWith router fuel scope world = world.deactivate router scope := by
  refine ⟨?_, ?_, ?_, ?_, ?_⟩
  · exact history.passes.throughout_iff_of_step (fun _ _ => trivial)
      (fun leads _ acyclic => acyclic.step_iff leads) trivial acyclic_initial
  · intro acyclic scope
    have attached := (history.passes.throughout_of_kept (fun leads attached => attached.step leads)
      attached_initial).2
    exact ⟨acyclic.exists_root attached scope,
      fun cursor => acyclic.exists_search router cursor scope⟩
  · constructor
    · intro acyclic
      obtain ⟨rank, _, ranked⟩ := acyclic_iff_ranked.mp acyclic
      exact ⟨rank, ranked⟩
    · rintro ⟨rank, ranked⟩
      exact acyclic_of_rank ranked
  · intro rank ranked mounts fuel scope request enough
    exact ranked.exists_handle_of_le mounts enough scope request
  · intro fuel scope enough
    exact deactivateWith_eq_deactivate enough scope

/-- A chain of three scopes that is taken apart and put together in another order. -/
theorem circles_stay_away_in_bare :
    ∃ past world, World.History {bare} past world ∧ past.length = 4 ∧
      World.Throughout World.Acyclic past world ∧ world.Lists 2 0 ∧
      (∃ top, world.root? 0 = some top ∧ (world.node top).parent = none) ∧
      ∀ request, ∃ result, world.handle bare 3 0 request = some result := by
  let first := (World.initial.activate bare 0 1 ⟨0, 0⟩).1
  let chain := (first.activate bare 1 2 ⟨1, 0⟩).1
  let apart := (chain.deactivate bare 1).1
  let last := (apart.activate bare 2 0 ⟨2, 0⟩).1
  have only := Set.mem_singleton bare
  have history : World.History {bare} [⟨.initial, .mounted 0 1 ⟨0, 0⟩⟩,
      ⟨first, .mounted 1 2 ⟨1, 0⟩⟩, ⟨chain, .deactivated 1⟩, ⟨apart, .mounted 2 0 ⟨2, 0⟩⟩] last :=
    .mounted only 2 0 ⟨2, 0⟩ (.deactivated only 1 (.mounted only 1 2 ⟨1, 0⟩
      (.mounted only 0 1 ⟨0, 0⟩ .initial)))
  have leaves : ((World.initial : World 3 Unit).node 1).children = [] ∧
      (first.node 2).children = [] ∧ (apart.node 0).children = [] ∧
      0 ∈ (last.node 2).children := by
    decide
  have no_entry : ∀ scope, (bare.get scope).table.entries.length = 0 := by
    decide
  clear_value first chain apart last
  obtain ⟨one, two, none_left, below⟩ := leaves
  obtain ⟨closed_iff, ends, ranked_iff, handled, _⟩ := circles_close_only_by_mounts history bare
  have acyclic := closed_iff.mpr (by
    intro moment member
    simp only [List.mem_cons, List.not_mem_nil, or_false] at member
    rcases member with rfl | rfl | rfl | rfl
    · exact fun _ => not_leadsDown_of_leaf one 0
    · exact fun _ => not_leadsDown_of_leaf two 1
    · trivial
    · exact fun _ => not_leadsDown_of_leaf none_left 2)
  obtain ⟨rank, ranked⟩ := ranked_iff.mp acyclic.2
  have mounts : bare.MountsUp rank := by
    intro scope entry member
    rw [List.length_eq_zero_iff.mp (no_entry scope)] at member
    cases member
  exact ⟨_, last, history, rfl, acyclic, below, (ends acyclic.2 0).1,
    fun request => handled rank ranked mounts 3 0 request (Nat.le_refl 3)⟩

/-- Two scopes can be mounted below each other, and then the way up does not end. -/
theorem circle_closes_over_two_mounts :
    ∃ past, ∃ first world : World 3 Unit, World.History {bare} past world ∧
      World.initial.activate bare 0 1 ⟨0, 0⟩ = (first, .ok ()) ∧
      first.activate bare 1 0 ⟨1, 0⟩ = (world, .ok ()) ∧ world.LeadsDown 0 0 ∧
      ∀ fuel, world.climb? fuel 0 = none := by
  let first := (World.initial.activate bare 0 1 ⟨0, 0⟩).1
  let world := (first.activate bare 1 0 ⟨1, 0⟩).1
  have history : World.History {bare} _ world :=
    .mounted (Set.mem_singleton bare) 1 0 ⟨1, 0⟩
      (.mounted (Set.mem_singleton bare) 0 1 ⟨0, 0⟩ .initial)
  have results : (World.initial.activate bare 0 1 ⟨0, 0⟩).2 = .ok () ∧
      (first.activate bare 1 0 ⟨1, 0⟩).2 = .ok () := by
    decide
  have links : 1 ∈ (world.node 0).children ∧ 0 ∈ (world.node 1).children ∧
      (world.node 0).parent = some 1 ∧ (world.node 1).parent = some 0 := by
    decide
  obtain ⟨down, back, upper, lower⟩ := links
  have around : ∀ scope, scope = 0 ∨ scope = 1 →
      ∃ parent, (world.node scope).parent = some parent ∧ (parent = 0 ∨ parent = 1) := by
    rintro scope (rfl | rfl)
    · exact ⟨1, upper, .inr rfl⟩
    · exact ⟨0, lower, .inl rfl⟩
  exact ⟨_, first, world, history, Prod.ext rfl results.1, Prod.ext rfl results.2,
    .tail (.single down) back, fun fuel => climb?_of_circle around fuel (.inl rfl)⟩

end ScopedRouting
