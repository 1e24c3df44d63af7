import ScopedRouting.Proofs.Scope.Circles
import ScopedRouting.Proofs.Scope.Trees

/-!
# Deactivating a whole subtree

In a tree, deactivation visits the scopes of a subtree in one order: the children of a scope in the
order of their activation, each with everything below it, and the scope itself behind them. Every
visit runs all deactivate hooks of its scope as one batch, whatever the others have reported, and
leaves the node of a scope that was never mounted.
-/
namespace ScopedRouting

variable {n : Nat} {ν : Type} {router : Router n ν}

/-- The events of a batch: the hooks of a scope run, and each notes down what it does. -/
def Router.batch (router : Router n ν) (phase : Phase) (scope : Fin n) : List (Event n ν) :=
  let declared := router.get scope
  .hooksRan scope phase :: declared.hooks.flatMap fun hook =>
    (hook phase declared.name).notes.map .noted

/-- The batch of a scope, if one of its hooks fails. -/
def Router.failedBatch? (router : Router n ν) (phase : Phase) (scope : Fin n) :
    Option FailedBatch :=
  (runHooks (router.get scope).hooks phase (router.get scope).name).2

theorem Router.failedBatch?_ne_none_iff {phase : Phase} {scope : Fin n} :
    router.failedBatch? phase scope ≠ none ↔
      ∃ hook ∈ (router.get scope).hooks, (hook phase (router.get scope).name).failure ≠ none := by
  unfold Router.failedBatch? runHooks
  simp [List.filterMap_eq_nil_iff]

/-- Whether no scope is below two of these. -/
structure Forest.Apart (forest : Forest n) (scopes : List (Fin n)) : Prop where
  nodup : scopes.Nodup
  unique : ∀ {a b scope}, a ∈ scopes → b ∈ scopes → Below forest.upward a scope →
    Below forest.upward b scope → a = b

namespace Forest.Apart

variable {forest : Forest n} {scope : Fin n} {rest : List (Fin n)}

theorem singleton (forest : Forest n) (scope : Fin n) : forest.Apart [scope] := by
  refine ⟨List.nodup_singleton scope, ?_⟩
  intro a b other inA inB _ _
  rw [List.mem_singleton.mp inA, List.mem_singleton.mp inB]

theorem tail (apart : forest.Apart (scope :: rest)) : forest.Apart rest :=
  ⟨(List.nodup_cons.mp apart.nodup).2, fun inA inB =>
    apart.unique (List.mem_cons_of_mem scope inA) (List.mem_cons_of_mem scope inB)⟩

/-- What is below the first of the scopes is below none of the others. -/
theorem not_below_rest (apart : forest.Apart (scope :: rest)) {top lower : Fin n}
    (member : top ∈ rest) (path : Below forest.upward top lower) :
    ¬ Below forest.upward scope lower := by
  intro shared
  have same := apart.unique List.mem_cons_self (List.mem_cons_of_mem scope member) shared path
  exact (List.nodup_cons.mp apart.nodup).1 (same ▸ member)

/-- Siblings are apart. -/
theorem of_siblings {parent : Fin n} {siblings : List (Fin n)} (nodup : siblings.Nodup)
    (links : ∀ child ∈ siblings, forest.upward child = some parent) : forest.Apart siblings :=
  ⟨nodup, fun inA inB => Forest.sibling_unique (links _ inA) (links _ inB)⟩

end Forest.Apart

namespace World

variable {world after : World n ν} {forest : Forest n} {scopes order : List (Fin n)}
  {scope : Fin n}

theorem runHooks_eq (router : Router n ν) (scope : Fin n) (phase : Phase) (world : World n ν) :
    world.runHooks router scope phase =
      (world.record (router.batch phase scope), router.failedBatch? phase scope) := by
  simp [runHooks, ScopedRouting.runHooks, Router.batch, Router.failedBatch?, List.flatMap_map,
    List.map_flatMap]

@[simp]
theorem trace_settle (router : Router n ν) (scope : Fin n) (world : World n ν) :
    (world.settle router scope).trace = world.trace ++ router.batch .deactivate scope := by
  unfold World.settle
  rw [runHooks_eq]
  rfl

@[simp]
theorem trace_detach (scope : Fin n) (world : World n ν) :
    (world.detach scope).trace = world.trace := by
  unfold detach
  split <;> rfl

/-- A mount runs the activate hooks of a scope that is not listed yet. -/
@[simp]
theorem trace_activate {parent child : Fin n} (different : child ≠ parent) (route : RouteId n) :
    (world.activate router parent child route).1.trace = world.trace ++
      if child ∈ (world.node parent).children then [] else router.batch .activate child := by
  by_cases listed : child ∈ (world.node parent).children
  · simp [activate, different.symm, listed]
  · simp [activate, different.symm, listed, runHooks_eq]

/-- Scopes and everything below them in the order of the lists, each scope behind what is below
it. -/
inductive InOrder (world : World n ν) : List (Fin n) → List (Fin n) → Prop
  | nil : InOrder world [] []
  | cons {scope : Fin n} {rest lower others : List (Fin n)}
      (below : InOrder world (world.node scope).children lower)
      (later : InOrder world rest others) : InOrder world (scope :: rest) (lower ++ scope :: others)

namespace InOrder

theorem append {more others : List (Fin n)} (first : world.InOrder scopes order)
    (second : world.InOrder more others) : world.InOrder (scopes ++ more) (order ++ others) := by
  induction first with
  | nil => exact second
  | cons below _ _ ih =>
    rw [List.append_assoc, List.cons_append]
    exact .cons below ih

/-- Only the lists of the scopes in the order matter. -/
theorem congr {other : World n ν} (inOrder : world.InOrder scopes order)
    (same : ∀ scope ∈ order, (other.node scope).children = (world.node scope).children) :
    other.InOrder scopes order := by
  induction inOrder with
  | nil => exact .nil
  | @cons scope rest lower others _ _ ih_below ih_later =>
    refine .cons ?_ (ih_later fun scope member => same scope (by simp [member]))
    rw [same scope (by simp)]
    exact ih_below fun scope member => same scope (by simp [member])

theorem roots_sublist (inOrder : world.InOrder scopes order) : scopes.Sublist order := by
  induction inOrder with
  | nil => exact .slnil
  | @cons scope _ lower _ _ _ _ ih =>
    exact (ih.cons_cons scope).trans (List.sublist_append_right _ _)

/-- Children come in their order, and their parent behind them. -/
theorem children_sublist (inOrder : world.InOrder scopes order) (member : scope ∈ order) :
    ((world.node scope).children ++ [scope]).Sublist order := by
  induction inOrder with
  | nil => cases member
  | @cons first rest lower others below _ ih_below ih_later =>
    rcases List.mem_append.mp member with inLower | behind
    · exact (ih_below inLower).trans (List.sublist_append_left _ _)
    · rcases List.mem_cons.mp behind with rfl | inOthers
      · exact below.roots_sublist.append (List.singleton_sublist.mpr List.mem_cons_self)
      · exact (ih_later inOthers).trans
          ((List.sublist_cons_self _ _).trans (List.sublist_append_right _ _))

theorem exists_below (inOrder : world.InOrder scopes order) (linked : world.Linked forest)
    (member : scope ∈ order) : ∃ top ∈ scopes, Below forest.upward top scope := by
  induction inOrder with
  | nil => cases member
  | @cons first rest lower others _ _ ih_below ih_later =>
    rcases List.mem_append.mp member with inLower | behind
    · obtain ⟨child, listed, path⟩ := ih_below inLower
      exact ⟨first, List.mem_cons_self, path.of_link (linked.upward_of_mem listed)⟩
    · rcases List.mem_cons.mp behind with rfl | inOthers
      · exact ⟨scope, List.mem_cons_self, .self⟩
      · obtain ⟨top, listed, path⟩ := ih_later inOthers
        exact ⟨top, List.mem_cons_of_mem first listed, path⟩

/-- What comes in the order is one of the scopes or is listed by another. -/
theorem mem_or_listed (inOrder : world.InOrder scopes order) (member : scope ∈ order) :
    scope ∈ scopes ∨ ∃ parent, scope ∈ (world.node parent).children := by
  induction inOrder with
  | nil => cases member
  | @cons first rest lower others _ _ ih_below ih_later =>
    rcases List.mem_append.mp member with inLower | behind
    · rcases ih_below inLower with child | listed
      · exact .inr ⟨first, child⟩
      · exact .inr listed
    · rcases List.mem_cons.mp behind with rfl | inOthers
      · exact .inl List.mem_cons_self
      · exact (ih_later inOthers).imp_left (List.mem_cons_of_mem first)

/-- In a tree the order holds what is below the scopes. -/
theorem mem_iff (inOrder : world.InOrder scopes order) (linked : world.Linked forest)
    (upward : forest.upward = world.parents) :
    scope ∈ order ↔ ∃ top ∈ scopes, Below world.parents top scope := by
  constructor
  · intro member
    rw [← upward]
    exact inOrder.exists_below linked member
  · rintro ⟨top, listed, path⟩
    induction path with
    | self => exact inOrder.roots_sublist.subset listed
    | under link _ ih =>
      have child := linked.mem_children_iff.mpr link
      exact (inOrder.children_sublist ih).subset (List.mem_append_left _ child)

theorem nodup (inOrder : world.InOrder scopes order) (linked : world.Linked forest)
    (apart : forest.Apart scopes) : order.Nodup := by
  induction inOrder with
  | nil => exact List.nodup_nil
  | @cons first rest lower others below later ih_below ih_later =>
    have links : ∀ child ∈ (world.node first).children, forest.upward child = some first :=
      fun _ => linked.upward_of_mem
    have lower_nodup := ih_below (.of_siblings (linked.nodup first) links)
    have others_nodup := ih_later apart.tail
    have strictly : ∀ {scope}, scope ∈ lower → Below forest.upward first scope ∧ scope ≠ first := by
      intro scope member
      obtain ⟨child, listed, path⟩ := below.exists_below linked member
      refine ⟨path.of_link (links child listed), ?_⟩
      rintro rfl
      exact Forest.not_below_parent (links child listed) path
    have elsewhere : ∀ {scope}, scope ∈ others → ¬ Below forest.upward first scope := by
      intro scope member
      obtain ⟨top, listed, path⟩ := later.exists_below linked member
      exact apart.not_below_rest listed path
    refine List.nodup_append.mpr ⟨lower_nodup, List.nodup_cons.mpr ⟨?_, others_nodup⟩, ?_⟩
    · exact fun member => elsewhere member .self
    · rintro a inLower b behind rfl
      rcases List.mem_cons.mp behind with rfl | inOthers
      · exact (strictly inLower).2 rfl
      · exact elsewhere inOthers (strictly inLower).1

end InOrder

/-- Whether scopes have been deactivated in this order and nothing else has happened: each has run
its batch and has the node of a scope that was never mounted. -/
structure Retired (router : Router n ν) (order : List (Fin n)) (world after : World n ν) :
    Prop where
  node : ∀ scope, after.node scope = if scope ∈ order then {} else world.node scope
  trace : after.trace = world.trace ++ order.flatMap (router.batch .deactivate)

namespace Retired

theorem nil (world : World n ν) : Retired router [] world world :=
  ⟨fun _ => by simp, by simp⟩

theorem append {a b c : World n ν} {others : List (Fin n)} (first : Retired router order a b)
    (second : Retired router others b c) : Retired router (order ++ others) a c := by
  refine ⟨?_, ?_⟩
  · intro scope
    rw [second.node, first.node]
    by_cases late : scope ∈ others <;> by_cases early : scope ∈ order <;> simp [late, early]
  · rw [second.trace, first.trace, List.flatMap_append, List.append_assoc]

/-- A scope that is taken apart settles behind what is below it. -/
theorem settle {inner : World n ν} (below : Retired router order (world.strip scope) inner) :
    Retired router (order ++ [scope]) world (inner.settle router scope) := by
  refine ⟨?_, ?_⟩
  · intro other
    by_cases mine : other = scope
    · subst mine
      by_cases again : other ∈ order <;> simp [node_settle, below.node, again]
    · by_cases lower : other ∈ order <;> simp [node_settle, below.node, mine, lower]
  · simp [below.trace]

end Retired

/-- Scopes that are apart in a tree are torn down in order, if what is below them has the lists of
the tree. -/
theorem TornDown.inOrder {now : World n ν} {failed : List FailedBatch}
    (torn : TornDown router scopes now after failed) (linked : world.Linked forest)
    (apart : forest.Apart scopes)
    (lists : ∀ top ∈ scopes, ∀ scope, Below forest.upward top scope →
      (now.node scope).children = (world.node scope).children) :
    ∃ order, world.InOrder scopes order ∧ Retired router order now after ∧
      failed = order.filterMap (router.failedBatch? .deactivate) := by
  induction torn with
  | nil now => exact ⟨[], .nil, .nil now, rfl⟩
  | @cons scope rest now inner after failedBelow failedLater _ _ ih_below ih_later =>
    have children := lists scope List.mem_cons_self scope .self
    have links : ∀ child ∈ (world.node scope).children, forest.upward child = some scope :=
      fun _ => linked.upward_of_mem
    -- Taking the scope apart only empties its own list, and that is not below its children.
    have lists_below : ∀ child ∈ (world.node scope).children, ∀ other,
        Below forest.upward child other →
          ((now.strip scope).node other).children = (world.node other).children := by
      intro child listed other path
      have different : other ≠ scope := by
        rintro rfl
        exact Forest.not_below_parent (links child listed) path
      simpa [different] using
        lists scope List.mem_cons_self other (path.of_link (links child listed))
    rw [children] at ih_below
    obtain ⟨lower, below, retired, rfl⟩ :=
      ih_below (.of_siblings (linked.nodup scope) links) lists_below
    have settled := retired.settle
    -- What has been retired by now is below the scope and so below none of those behind it.
    have lists_later : ∀ top ∈ rest, ∀ other, Below forest.upward top other →
        ((inner.settle router scope).node other).children = (world.node other).children := by
      intro top listed other path
      have elsewhere := apart.not_below_rest listed path
      have untouched : other ∉ lower ++ [scope] := by
        intro member
        rcases List.mem_append.mp member with inLower | last
        · obtain ⟨child, above, lower_path⟩ := below.exists_below linked inLower
          exact elsewhere (lower_path.of_link (links child above))
        · exact elsewhere (List.mem_singleton.mp last ▸ .self)
      rw [settled.node, if_neg untouched]
      exact lists top (List.mem_cons_of_mem scope listed) other path
    obtain ⟨others, later, rest_retired, rfl⟩ := ih_later apart.tail lists_later
    refine ⟨lower ++ scope :: others, .cons below later, ?_, ?_⟩
    · have both := settled.append rest_retired
      rwa [List.append_assoc] at both
    · rw [runHooks_eq, List.filterMap_append, List.filterMap_cons]
      cases router.failedBatch? .deactivate scope <;> simp

/-- Deactivating a scope takes it off its parent and retires it with everything below it. -/
theorem Linked.deactivate_inOrder (linked : world.Linked forest) (router : Router n ν)
    (scope : Fin n) : ∃ order, world.InOrder [scope] order ∧
      Retired router order (world.detach scope) (world.deactivate router scope).1 ∧
      (world.deactivate router scope).2 = order.filterMap (router.failedBatch? .deactivate) := by
  apply (tornDown_deactivate router scope world).inOrder linked (.singleton forest scope)
  intro top listed other path
  rw [List.mem_singleton.mp listed] at path
  rw [children_detach, if_neg]
  intro upper
  exact Forest.not_below_parent (linked.upward_of_parent upper) path

/-- In every history, the scopes form a tree exactly while the links agree and close no circle. -/
theorem History.isTree_iff {routers : Set (Router n ν)} {past : List (Moment n ν)}
    (history : History routers past world) :
    world.IsTree ↔ world.Agrees ∧ world.Acyclic := by
  have attached : world.Attached fun _ => False :=
    (history.passes.throughout_of_kept (fun leads attached => attached.step leads)
      attached_initial).2
  constructor
  · rintro ⟨forest, linked⟩
    exact ⟨attached.agrees_iff.mpr ⟨linked.listed_iff.mp⟩, acyclic_of_rank linked.ranked⟩
  · rintro ⟨agrees, acyclic⟩
    have exclusive := attached.agrees_iff.mp agrees
    have listed : ∀ {parent child}, world.parents child = some parent →
        world.Lists parent child := fun link => (attached.listed link).resolve_right id
    have down : ∀ {top scope}, Below world.parents top scope →
        Relation.ReflTransGen world.Lists top scope := by
      intro top scope path
      induction path with
      | self => exact .refl
      | under link _ ih => exact ih.tail (listed link)
    refine ⟨⟨world.parents, ?_⟩, ?_, id, attached.nodup⟩
    · intro parent child link path
      exact acyclic parent (.head' (listed link) (down path))
    · intro parent child
      exact ⟨exclusive.owned, fun upper => listed upper.1⟩

end World

open World

/-- Deactivating a scope of a tree visits it and everything below it once each, children before
their parent and in the order of their activation. Every scope visited has no parent, no route, no
children and no match afterwards, and its hooks have all run as one batch, whichever hooks failed.
The parent of the scope no longer lists it, and no other node changes. A failure is reported
exactly if a hook of a visited scope fails. -/
theorem deactivation_is_complete (router : Router n ν) {world : World n ν} (tree : world.IsTree)
    (scope : Fin n) :
    ∃ order, world.InOrder [scope] order ∧ order.Nodup ∧
      (∀ other, other ∈ order ↔ Below world.parents scope other) ∧
      (∀ other ∈ order, ((world.node other).children ++ [other]).Sublist order) ∧
      (∀ other ∈ order, (world.deactivate router scope).1.node other =
        { parent := none, mountedOn := none, children := [],
          state := { current := none, rootPath := "/" } }) ∧
      (∀ other, other ∉ order → (world.deactivate router scope).1.node other =
        if (world.node scope).parent = some other then
          { world.node other with children := (world.node other).children.filter (· ≠ scope) }
        else world.node other) ∧
      (world.deactivate router scope).1.trace =
        world.trace ++ order.flatMap (router.batch .deactivate) ∧
      ((world.deactivate router scope).2 ≠ [] ↔ ∃ other ∈ order,
        ∃ hook ∈ (router.get other).hooks,
          (hook .deactivate (router.get other).name).failure ≠ none) := by
  obtain ⟨forest, upward, linked⟩ := tree.exact
  obtain ⟨order, inOrder, retired, failed⟩ := linked.deactivate_inOrder router scope
  have mem_iff : ∀ other, other ∈ order ↔ Below world.parents scope other := by
    intro other
    rw [inOrder.mem_iff linked upward]
    simp
  refine ⟨order, inOrder, inOrder.nodup linked (.singleton forest scope), mem_iff,
    fun _ => inOrder.children_sublist, ?_, ?_, ?_, ?_⟩
  · intro other member
    rw [retired.node, if_pos member]
  · intro other outside
    have different : other ≠ scope := by
      rintro rfl
      exact outside ((mem_iff other).mpr .self)
    rw [retired.node, if_neg outside, node_detach linked, if_neg different]
    split
    · rfl
    · rename_i apart
      exact Node.without_of_not_mem fun member => apart (linked.mem_children_iff.mp member)
  · simp [retired.trace]
  · simp only [failed, ← Router.failedBatch?_ne_none_iff, ne_eq, List.filterMap_eq_nil_iff,
      not_forall, exists_prop]

/-- A sample: scopes that only have hooks. Every scope notes down its number, and behind it one hook
of the last scope fails when it is deactivated. -/
def hooked : Router 4 Nat :=
  Vector.ofFn fun scope =>
    { name := s!"scope {scope.val}", config := { baseUrl := "app:/" }, table := ⟨[]⟩
      invoker := .direct, ambient := .empty
      hooks := [fun _ _ => ⟨[scope.val], none⟩,
        fun phase _ => ⟨[], if scope = 3 ∧ phase = .deactivate then some ⟨["busy"]⟩ else none⟩] }

/-- The first scope has two children, and the first of these has one. -/
theorem deactivation_is_complete_in_hooked :
    ∃ world : World 4 Nat, world.IsTree ∧ (world.node 0).children = [1, 2] ∧
      (world.node 1).children = [3] ∧ (world.deactivate hooked 1).2 ≠ [] ∧
      (world.deactivate hooked 1).1.node 3 = {} ∧
      ((world.deactivate hooked 1).1.node 0).children = [2] ∧
      ∃ order, world.InOrder [1] order ∧ [3, 1].Sublist order ∧
        (world.deactivate hooked 1).1.trace =
          world.trace ++ order.flatMap (hooked.batch .deactivate) := by
  let forest : Forest 4 := .ofLt
    (fun scope => if scope = 3 then some 1 else if scope = 0 then none else some 0) (by decide)
  let first := (World.initial.activate hooked 0 1 ⟨0, 0⟩).1
  let second := (first.activate hooked 1 3 ⟨1, 0⟩).1
  let world := (second.activate hooked 0 2 ⟨0, 1⟩).1
  have start : (World.initial : World 4 Nat).Linked forest := linked_initial
  have linked : world.Linked forest :=
    ((start.activate rfl ⟨0, 0⟩).activate rfl ⟨1, 0⟩).activate rfl ⟨0, 1⟩
  have lists : (world.node 0).children = [1, 2] ∧ (world.node 1).children = [3] ∧
      (world.node 1).parent = some 0 ∧ (world.node 3).parent = some 1 ∧
      (world.node 0).parent = none := by
    decide
  clear_value world
  obtain ⟨top, below, upper, lower, root⟩ := lists
  obtain ⟨order, inOrder, _, mem_iff, sublist, retired, others, trace, fails_iff⟩ :=
    deactivation_is_complete hooked linked.isTree 1
  have own : 1 ∈ order := (mem_iff 1).mpr .self
  have last : 3 ∈ order := (mem_iff 3).mpr (.under lower .self)
  have outside : 0 ∉ order := by
    intro member
    cases (mem_iff 0).mp member with
    | under link _ => cases root.symm.trans link
  have children := sublist 1 own
  rw [below] at children
  refine ⟨world, linked.isTree, top, below, fails_iff.mpr ⟨3, last, ?_⟩, retired 3 last, ?_, order,
    inOrder, children, trace⟩
  · exact ⟨_, List.mem_cons_of_mem _ List.mem_cons_self, by decide⟩
  · rw [others 0 outside, if_pos upper, top]
    rfl

end ScopedRouting
