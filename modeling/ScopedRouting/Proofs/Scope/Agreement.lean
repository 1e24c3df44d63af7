import ScopedRouting.Proofs.Scope.Declared
import ScopedRouting.Proofs.Scope.History
import ScopedRouting.Proofs.Scope.Teardown

/-!
# Agreement of parents and lists

Which scopes are mounted where is written down twice, at the child and in the list of the parent.
Whatever happens, a parent lists its child, and once only. The other direction is lost when a scope
is mounted below a second parent without being deactivated first, because the first parent goes on
listing it.
-/
namespace ScopedRouting

variable {n : Nat} {ν : Type} {router : Router n ν} {world after : World n ν} {scope : Fin n}
  {waiting : Fin n → Prop}

namespace World

/-- Whether scopes with a parent are in its list, except for those that wait to be deactivated, and
are mounted on a route. -/
structure Attached (waiting : Fin n → Prop) (world : World n ν) : Prop where
  listed : ∀ {parent child}, (world.node child).parent = some parent →
    child ∈ (world.node parent).children ∨ waiting child
  mounted_iff : ∀ scope, (world.node scope).mountedOn ≠ none ↔ (world.node scope).parent ≠ none
  nodup : ∀ scope, (world.node scope).children.Nodup

/-- Whether scopes are listed by their own parent only, and not while they wait to be
deactivated. -/
structure Exclusive (waiting : Fin n → Prop) (world : World n ν) : Prop where
  owned : ∀ {parent child}, child ∈ (world.node parent).children →
    (world.node child).parent = some parent ∧ ¬ waiting child

/-- Whether a scope is in the list of another exactly if it has this one as its parent and is
mounted on a route, and there only once. -/
def Agrees (world : World n ν) : Prop :=
  (∀ parent child, child ∈ (world.node parent).children ↔
    (world.node child).parent = some parent ∧ (world.node child).mountedOn ≠ none) ∧
  ∀ parent, (world.node parent).children.Nodup

/-- Links that agree give a scope one parent at most. -/
theorem Agrees.parent_unique (agrees : world.Agrees) {a b child : Fin n}
    (inA : child ∈ (world.node a).children) (inB : child ∈ (world.node b).children) : a = b := by
  have fst := ((agrees.1 a child).mp inA).1
  have snd := ((agrees.1 b child).mp inB).1
  exact Option.some.inj (fst.symm.trans snd)

theorem Attached.agrees_iff (attached : world.Attached fun _ => False) :
    world.Agrees ↔ world.Exclusive fun _ => False := by
  constructor
  · intro agrees
    refine ⟨?_⟩
    intro parent child member
    exact ⟨((agrees.1 parent child).mp member).1, id⟩
  · intro exclusive
    refine ⟨?_, attached.nodup⟩
    intro parent child
    constructor
    · intro member
      have upper := (exclusive.owned member).1
      refine ⟨upper, (attached.mounted_iff child).mpr ?_⟩
      simp [upper]
    · rintro ⟨upper, _⟩
      simpa using attached.listed upper

theorem attached_initial : (World.initial : World n ν).Attached fun _ => False := by
  refine ⟨?_, ?_, ?_⟩
  · intro parent child upper
    simp at upper
  · intro scope
    simp
  · intro scope
    simp

theorem exclusive_initial : (World.initial : World n ν).Exclusive fun _ => False := by
  refine ⟨?_⟩
  intro parent child member
  simp at member

/-- Both are a matter of parents, routes and lists only. -/
theorem Attached.of_same_links {other : World n ν} (attached : world.Attached waiting)
    (parents : ∀ scope, (other.node scope).parent = (world.node scope).parent)
    (routes : ∀ scope, (other.node scope).mountedOn = (world.node scope).mountedOn)
    (children : ∀ scope, (other.node scope).children = (world.node scope).children) :
    other.Attached waiting := by
  refine ⟨?_, ?_, ?_⟩
  · intro parent child upper
    rw [parents] at upper
    rw [children]
    exact attached.listed upper
  · intro scope
    rw [parents, routes]
    exact attached.mounted_iff scope
  · intro scope
    rw [children]
    exact attached.nodup scope

theorem Exclusive.of_same_links {other : World n ν} (exclusive : world.Exclusive waiting)
    (parents : ∀ scope, (other.node scope).parent = (world.node scope).parent)
    (children : ∀ scope, (other.node scope).children = (world.node scope).children) :
    other.Exclusive waiting := by
  refine ⟨?_⟩
  intro parent child member
  rw [children] at member
  rw [parents]
  exact exclusive.owned member

theorem Attached.detach (attached : world.Attached waiting) (scope : Fin n) :
    (world.detach scope).Attached waiting := by
  refine ⟨?_, ?_, ?_⟩
  · intro parent child upper
    rw [parent_detach] at upper
    split at upper
    · cases upper
    · rename_i other
      rw [children_detach]
      rcases attached.listed upper with member | waits
      · left
        split
        · simp [member, other]
        · exact member
      · exact .inr waits
  · intro other
    by_cases mine : other = scope
    · simp [mine]
    · simpa [mine] using attached.mounted_iff other
  · intro other
    rw [children_detach]
    split
    · exact (attached.nodup other).filter _
    · exact attached.nodup other

theorem Exclusive.detach (exclusive : world.Exclusive waiting) (scope : Fin n) :
    (world.detach scope).Exclusive waiting := by
  refine ⟨?_⟩
  intro parent child member
  have listed := mem_of_mem_detach member
  obtain ⟨upper, settled⟩ := exclusive.owned listed
  have other : child ≠ scope := by
    rintro rfl
    simp [upper] at member
  exact ⟨by simpa [other] using upper, settled⟩

/-- A scope off its parent is in no list. -/
theorem Exclusive.unlisted_detach (exclusive : world.Exclusive waiting) (scope : Fin n) :
    (world.detach scope).Exclusive fun child => waiting child ∨ child = scope := by
  refine ⟨?_⟩
  intro parent child member
  obtain ⟨upper, settled⟩ := (exclusive.detach scope).owned member
  refine ⟨upper, ?_⟩
  rintro (waits | rfl)
  · exact settled waits
  · simp at upper

theorem Attached.strip {rest : List (Fin n)}
    (attached : world.Attached fun child => waiting child ∨ child ∈ scope :: rest) :
    (world.strip scope).Attached fun child =>
      (waiting child ∨ child ∈ rest) ∨ child ∈ (world.node scope).children := by
  refine ⟨?_, ?_, ?_⟩
  · intro parent child upper
    rw [node_strip] at upper
    split at upper
    · cases upper
    · rename_i other
      rcases attached.listed upper with member | waits | waits
      · by_cases same : parent = scope
        · rw [same] at member
          exact .inr (.inr member)
        · exact .inl (by simpa [same] using member)
      · exact .inr (.inl (.inl waits))
      · exact .inr (.inl (.inr ((List.mem_cons.mp waits).resolve_left other)))
  · intro other
    by_cases mine : other = scope
    · simp [mine]
    · simpa [mine] using attached.mounted_iff other
  · intro other
    by_cases mine : other = scope
    · simp [mine]
    · simpa [mine] using attached.nodup other

theorem Exclusive.strip {rest : List (Fin n)}
    (exclusive : world.Exclusive fun child => waiting child ∨ child ∈ scope :: rest) :
    (world.strip scope).Exclusive fun child =>
      (waiting child ∨ child ∈ rest) ∨ child ∈ (world.node scope).children := by
  refine ⟨?_⟩
  intro parent child member
  rw [node_strip] at member
  split at member
  · cases member
  · rename_i owner
    obtain ⟨upper, settled⟩ := exclusive.owned member
    have other : child ≠ scope := by
      rintro rfl
      exact settled (.inr List.mem_cons_self)
    refine ⟨by simpa [other] using upper, ?_⟩
    rintro ((waits | waits) | listed)
    · exact settled (.inl waits)
    · exact settled (.inr (List.mem_cons_of_mem scope waits))
    · have here := (exclusive.owned listed).1
      exact owner (Option.some.inj (upper.symm.trans here))

theorem Attached.settle (attached : world.Attached waiting) (router : Router n ν)
    (scope : Fin n) : (world.settle router scope).Attached waiting :=
  attached.of_same_links (by simp) (by simp) (by simp)

theorem Exclusive.settle (exclusive : world.Exclusive waiting) (router : Router n ν)
    (scope : Fin n) : (world.settle router scope).Exclusive waiting :=
  exclusive.of_same_links (by simp) (by simp)

/-- The scopes that are torn down no longer wait behind it. -/
theorem TornDown.attached {scopes : List (Fin n)} {failed : List FailedBatch}
    (torn : TornDown router scopes world after failed)
    (attached : world.Attached fun child => waiting child ∨ child ∈ scopes) :
    after.Attached waiting := by
  induction torn generalizing waiting with
  | nil _ => simpa using attached
  | cons _ _ ih_below ih_later =>
    have below := ih_below attached.strip
    exact ih_later (below.settle router _)

theorem TornDown.exclusive {scopes : List (Fin n)} {failed : List FailedBatch}
    (torn : TornDown router scopes world after failed)
    (exclusive : world.Exclusive fun child => waiting child ∨ child ∈ scopes) :
    after.Exclusive waiting := by
  induction torn generalizing waiting with
  | nil _ => simpa using exclusive
  | cons _ _ ih_below ih_later =>
    have below := ih_below exclusive.strip
    exact ih_later (below.settle router _)

theorem Attached.mono {other : Fin n → Prop} (attached : world.Attached waiting)
    (weaker : ∀ scope, waiting scope → other scope) : world.Attached other := by
  refine ⟨?_, attached.mounted_iff, attached.nodup⟩
  intro parent child upper
  exact (attached.listed upper).imp_right (weaker child)

theorem Attached.deactivate (attached : world.Attached fun _ => False) (router : Router n ν)
    (scope : Fin n) : (world.deactivate router scope).1.Attached fun _ => False :=
  (tornDown_deactivate router scope world).attached
    ((attached.detach scope).mono fun _ => False.elim)

theorem Exclusive.deactivate (exclusive : world.Exclusive fun _ => False) (router : Router n ν)
    (scope : Fin n) : (world.deactivate router scope).1.Exclusive fun _ => False := by
  have unlisted := exclusive.unlisted_detach scope
  refine (tornDown_deactivate router scope world).exclusive ?_
  simpa using unlisted

section Mounting

variable {parent child : Fin n}

theorem Attached.activate (attached : world.Attached fun _ => False) (router : Router n ν)
    (parent child : Fin n) (route : RouteId n) :
    (world.activate router parent child route).1.Attached fun _ => False := by
  by_cases different : child = parent
  · simpa [different] using attached
  · refine ⟨?_, ?_, ?_⟩
    · intro upper scope link
      rw [parent_activate different] at link
      rw [mem_children_activate different]
      split at link
      · rename_i mine
        exact .inl (.inr ⟨mine, (Option.some.inj link).symm⟩)
      · exact .inl (.inl ((attached.listed link).resolve_right id))
    · intro scope
      by_cases mine : scope = child
      · simp [different, mine]
      · simpa [different, mine] using attached.mounted_iff scope
    · exact nodup_children_activate attached.nodup different route

/-- Mounting keeps lists to own children exactly if no other parent goes on listing the child. -/
theorem Exclusive.activate_iff (exclusive : world.Exclusive fun _ => False)
    (attached : world.Attached fun _ => False) (different : child ≠ parent) (route : RouteId n) :
    ((world.activate router parent child route).1.Exclusive fun _ => False) ↔
      ∀ other, (world.node child).parent = some other → other = parent := by
  constructor
  · intro kept other upper
    have listed : child ∈ (world.node other).children := (attached.listed upper).resolve_right id
    have still : child ∈
        ((world.activate router parent child route).1.node other).children :=
      (mem_children_activate different route other child).mpr (.inl listed)
    have link := (kept.owned still).1
    have own : some parent = some other := by simpa [different] using link
    exact (Option.some.inj own).symm
  · intro free
    refine ⟨?_⟩
    intro other scope member
    rcases (mem_children_activate different route other scope).mp member with listed | ⟨mine, here⟩
    · have link := (exclusive.owned listed).1
      by_cases mine : scope = child
      · simp [different, mine, free other (mine ▸ link)]
      · simp [different, mine, link]
    · simp [different, mine, here]

end Mounting

end World

/-- Whether a change, if it mounts a scope, takes it from no other parent. -/
def Moment.TakesNone (moment : Moment n ν) : Prop :=
  match moment.change with
  | .mounted parent child _ =>
    child ≠ parent → ∀ other, (moment.world.node child).parent = some other → other = parent
  | _ => True

namespace World

variable {moment : Moment n ν}

theorem Attached.step (attached : moment.world.Attached fun _ => False)
    (leads : moment.LeadsTo router after) : after.Attached fun _ => False := by
  cases leads with
  | noted world what => exact attached.of_same_links (fun _ => rfl) (fun _ => rfl) fun _ => rfl
  | mounted world parent child route => exact attached.activate router parent child route
  | deactivated world scope => exact attached.deactivate router scope
  | called world invoked changed =>
    exact attached.of_same_links (by simp) (by simp) (by simp)
  | skipped world invoked unchanged => exact attached
  | committed world step =>
    exact attached.of_same_links (by simp) (by simp) (by simp)

/-- Only mounts that take a scope from another parent spoil the lists. -/
theorem Exclusive.step_iff (exclusive : moment.world.Exclusive fun _ => False)
    (attached : moment.world.Attached fun _ => False) (leads : moment.LeadsTo router after) :
    (after.Exclusive fun _ => False) ↔ moment.TakesNone := by
  cases leads with
  | noted world what =>
    exact iff_of_true (exclusive.of_same_links (by simp) (by simp)) trivial
  | mounted world parent child route =>
    by_cases different : child = parent
    · rw [different, activate_self]
      exact iff_of_true exclusive fun other => False.elim (other rfl)
    · rw [exclusive.activate_iff attached different]
      constructor
      · intro free _
        exact free
      · intro free
        exact free different
  | deactivated world scope => exact iff_of_true (exclusive.deactivate router scope) trivial
  | called world invoked changed =>
    exact iff_of_true (exclusive.of_same_links (by simp) (by simp)) trivial
  | skipped world invoked unchanged => exact iff_of_true exclusive trivial
  | committed world step =>
    exact iff_of_true (exclusive.of_same_links (by simp) (by simp)) trivial

end World

open World

/-- In every history, parents list their children, once each, and scopes are mounted on a route
exactly while they have a parent. The lists agree with the parents all the time exactly if no mount
takes a scope from another parent, and then no scope is in two lists. -/
theorem links_agree_iff_none_taken {routers : Set (Router n ν)} {past : List (Moment n ν)}
    (history : History routers past world) :
    Throughout (Attached fun _ => False) past world ∧
    (Throughout Agrees past world ↔ ∀ moment ∈ past, moment.TakesNone) ∧
    (world.Agrees → ∀ a b child, child ∈ (world.node a).children →
      child ∈ (world.node b).children → a = b) := by
  have attached : Throughout (Attached fun _ => False) past world :=
    history.passes.throughout_of_kept (fun leads attached => attached.step leads) attached_initial
  have exclusive : Throughout (Exclusive fun _ => False) past world ↔
      ∀ moment ∈ past, moment.TakesNone :=
    history.passes.throughout_iff_of_step (fun leads attached => attached.step leads)
      (fun leads attached exclusive => exclusive.step_iff attached leads)
      attached_initial exclusive_initial
  refine ⟨attached, ?_, fun agrees a b child => agrees.parent_unique⟩
  rw [← exclusive]
  constructor
  · rintro ⟨met, last⟩
    exact ⟨fun moment member => (attached.1 moment member).agrees_iff.mp (met moment member),
      attached.2.agrees_iff.mp last⟩
  · rintro ⟨met, last⟩
    exact ⟨fun moment member => (attached.1 moment member).agrees_iff.mpr (met moment member),
      attached.2.agrees_iff.mpr last⟩

/-- A sample: three scopes without routes. -/
def bare : Router 3 Unit :=
  .plain "app:/" fun _ => []

/-- Mounting a scope again below the same parent and, once it is deactivated, below another one
keeps the links in agreement. -/
theorem links_agree_behind_deactivation :
    ∃ past world, World.History {bare} past world ∧ past.length = 4 ∧
      World.Throughout World.Agrees past world ∧ (world.node 1).parent = some 2 := by
  let first := (World.initial.activate bare 0 1 ⟨0, 0⟩).1
  let again := (first.activate bare 0 1 ⟨0, 1⟩).1
  let off := (again.deactivate bare 1).1
  let last := (off.activate bare 2 1 ⟨2, 0⟩).1
  have only := Set.mem_singleton bare
  have history : World.History {bare} [⟨.initial, .mounted 0 1 ⟨0, 0⟩⟩,
      ⟨first, .mounted 0 1 ⟨0, 1⟩⟩, ⟨again, .deactivated 1⟩, ⟨off, .mounted 2 1 ⟨2, 0⟩⟩] last :=
    .mounted only 2 1 ⟨2, 0⟩ (.deactivated only 1 (.mounted only 0 1 ⟨0, 1⟩
      (.mounted only 0 1 ⟨0, 0⟩ .initial)))
  have links : ((World.initial : World 3 Unit).node 1).parent = none ∧
      (first.node 1).parent = some 0 ∧ (off.node 1).parent = none ∧
      (last.node 1).parent = some 2 := by
    decide
  clear_value first again off last
  obtain ⟨free, own, freed, moved⟩ := links
  refine ⟨_, last, history, rfl, (links_agree_iff_none_taken history).2.1.mpr ?_, moved⟩
  intro moment member
  simp only [List.mem_cons, List.not_mem_nil, or_false] at member
  rcases member with rfl | rfl | rfl | rfl
  · rintro _ other upper
    exact absurd (upper.symm.trans free) (by simp)
  · rintro _ other upper
    exact Option.some.inj (upper.symm.trans own)
  · trivial
  · rintro _ other upper
    exact absurd (upper.symm.trans freed) (by simp)

/-- A scope that is mounted below a second parent stays in the list of the first. -/
theorem links_disagree_behind_second_mount :
    ∃ past world, World.History {bare} past world ∧
      1 ∈ (world.node 0).children ∧ 1 ∈ (world.node 2).children ∧
      (world.node 1).parent = some 2 ∧ ¬ world.Agrees := by
  let first := (World.initial.activate bare 0 1 ⟨0, 0⟩).1
  have history : World.History {bare} _ (first.activate bare 2 1 ⟨2, 0⟩).1 :=
    .mounted (Set.mem_singleton bare) 2 1 ⟨2, 0⟩
      (.mounted (Set.mem_singleton bare) 0 1 ⟨0, 0⟩ .initial)
  have links : 1 ∈ ((first.activate bare 2 1 ⟨2, 0⟩).1.node 0).children ∧
      1 ∈ ((first.activate bare 2 1 ⟨2, 0⟩).1.node 2).children ∧
      ((first.activate bare 2 1 ⟨2, 0⟩).1.node 1).parent = some 2 := by
    decide
  obtain ⟨inFirst, inSecond, upper⟩ := links
  refine ⟨_, _, history, inFirst, inSecond, upper, ?_⟩
  intro agrees
  exact absurd (agrees.parent_unique inFirst inSecond) (by decide)

end ScopedRouting
