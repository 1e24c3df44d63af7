import Mathlib.Data.List.Chain
import ScopedRouting.Proofs.Scope.Containment

/-!
# Worlds that stay trees

Handlers may mount scopes anywhere as long as the world stays a tree. Then mounting never touches
what is above the scope of the handler, since a scope above it would be closing a circle, and
neither does anything else that an evaluation does there. The scopes of its steps hang one below
the other when it is done.
-/
namespace ScopedRouting

namespace Below

variable {n : Nat} {upward upward' : Fin n → Option (Fin n)} {top scope : Fin n}

/-- Paths only depend on the parents of what is above their end. -/
theorem congr (same : ∀ other, Below upward other scope → upward' other = upward other)
    (path : Below upward top scope) : Below upward' top scope := by
  have partway : ∀ {middle}, Below upward top middle → Below upward middle scope →
      Below upward' top middle := by
    intro middle upper lower
    induction upper with
    | self => exact .self
    | under link _ ih => exact .under ((same _ lower).trans link) (ih (lower.of_link link))
  exact partway path .self

/-- A path is still there if scopes have been put below a target, or it now begins at one of
these. -/
theorem of_put_below {target : Fin n}
    (put : ∀ other, upward' other = upward other ∨ upward' other = some target)
    (path : Below upward top scope) :
    Below upward' top scope ∨ ∃ other, upward' other = some target ∧ Below upward' other scope := by
  induction path with
  | self => exact .inl .self
  | @under parent child link _ ih =>
    rcases put child with same | taken
    · rcases ih with path | ⟨other, target, path⟩
      · exact .inl (.under (same.trans link) path)
      · exact .inr ⟨other, target, .under (same.trans link) path⟩
    · exact .inr ⟨child, taken, .self⟩

end Below

namespace World

variable {n : Nat} {ν : Type} {router : Router n ν} {world after : World n ν}

/-- The parents of scopes. -/
def parents (world : World n ν) (scope : Fin n) : Option (Fin n) :=
  (world.node scope).parent

/-- Whether the links of a world agree in both directions and close no circle. -/
def IsTree (world : World n ν) : Prop :=
  ∃ forest : Forest n, world.Linked forest

theorem Linked.isTree {forest : Forest n} (linked : world.Linked forest) : world.IsTree :=
  ⟨forest, linked⟩

theorem IsTree.record (tree : world.IsTree) (events : List (Event n ν)) :
    (world.record events).IsTree := by
  obtain ⟨forest, linked⟩ := tree
  exact ⟨forest, linked.record events⟩

/-- The forest of a tree can be taken to be that of its parents. -/
theorem IsTree.exact (tree : world.IsTree) :
    ∃ forest : Forest n, forest.upward = world.parents ∧ world.Linked forest := by
  obtain ⟨forest, linked⟩ := tree
  have links : ∀ child parent, world.parents child = some parent →
      forest.upward child = some parent := fun _ _ => linked.upward_of_parent
  refine ⟨⟨world.parents, ?_⟩, rfl, ⟨linked.listed_iff, id, linked.nodup⟩⟩
  intro parent child link path
  exact forest.acyclic parent child (links child parent link) (path.mono links)

/-- Whether nothing has happened above a scope, nor to the place where it hangs. -/
structure SparesAbove (scope : Fin n) (world after : World n ν) : Prop where
  above : ∀ top, Below world.parents top scope → top ≠ scope → after.node top = world.node top
  parent : (after.node scope).parent = (world.node scope).parent
  mountedOn : (after.node scope).mountedOn = (world.node scope).mountedOn

namespace SparesAbove

variable {scope top : Fin n} {a b c : World n ν}

theorem refl (scope : Fin n) (world : World n ν) : SparesAbove scope world world :=
  ⟨fun _ _ _ => rfl, rfl, rfl⟩

theorem path (spares : SparesAbove scope a b) (above : Below a.parents top scope) :
    Below b.parents top scope := by
  apply above.congr
  intro other higher
  by_cases same : other = scope
  · rw [same]
    exact spares.parent
  · exact congrArg Node.parent (spares.above other higher same)

theorem trans (first : SparesAbove scope a b) (second : SparesAbove scope b c) :
    SparesAbove scope a c :=
  ⟨fun top higher other =>
      (second.above top (first.path higher) other).trans (first.above top higher other),
    second.parent.trans first.parent, second.mountedOn.trans first.mountedOn⟩

/-- What spares all above a child spares its parent, too. -/
theorem lift {child : Fin n} (tree : a.IsTree) (link : a.parents child = some scope)
    (spares : SparesAbove child a b) : SparesAbove scope a b := by
  obtain ⟨forest, upward, _⟩ := tree.exact
  have higher : ∀ {top}, Below a.parents top scope → top ≠ child := by
    rintro top path rfl
    exact forest.acyclic scope top (upward ▸ link) (upward ▸ path)
  have node := spares.above scope (.under link .self) (higher .self)
  exact ⟨fun top path _ => spares.above top (.under link path) (higher path), by rw [node],
    by rw [node]⟩

theorem of_contained {forest : Forest n} (upward : forest.upward = a.parents)
    (contained : Contained forest scope a b) : SparesAbove scope a b := by
  refine ⟨?_, contained.parent, contained.mountedOn⟩
  intro top path different
  apply contained.outside
  intro back
  exact different (Forest.below_antisymm (upward ▸ path) back)

/-- A scope that was mounted cannot have been above the one that mounted it. -/
theorem of_mounted (tree : b.IsTree) (mounted : Mounted scope a b) : SparesAbove scope a b := by
  obtain ⟨forest, upward, _⟩ := tree.exact
  obtain ⟨more, self⟩ := mounted.self
  have put : ∀ other, b.parents other = a.parents other ∨ b.parents other = some scope := by
    intro other
    by_cases mine : other = scope
    · rw [mine]
      exact .inl (by rw [parents, self, parents])
    · rcases mounted.others other mine with same | ⟨route, taken⟩
      · exact .inl (congrArg Node.parent same)
      · exact .inr (congrArg Node.parent taken)
  have open_above : ∀ {other}, b.parents other = some scope → ¬ Below b.parents other scope := by
    intro other link
    rw [← upward] at link ⊢
    exact forest.acyclic scope other link
  refine ⟨?_, by rw [self], by rw [self]⟩
  intro top path different
  rcases mounted.others top different with same | ⟨route, taken⟩
  · exact same
  · rcases path.of_put_below put with path | ⟨other, link, path⟩
    · exact False.elim (open_above (congrArg Node.parent taken) path)
    · exact False.elim (open_above link path)

end SparesAbove

/-- Whether a step is on a child of the scope of another, mounted on the route that matched. -/
structure Hangs (world : World n ν) (upper lower : Step n) : Prop where
  parent : (world.node lower.route.scope).parent = some upper.route.scope
  listed : lower.route.scope ∈ (world.node upper.route.scope).children
  mountedOn : (world.node lower.route.scope).mountedOn = some upper.route

/-- Steps that hang one below the other in a tree are on different scopes. -/
theorem nodup_of_hangs (tree : world.IsTree) {steps : List (Step n)}
    (chain : steps.IsChain (Hangs world)) : (steps.map (·.route.scope)).Nodup := by
  obtain ⟨forest, linked⟩ := tree
  have deeper : steps.IsChain fun upper lower =>
      forest.depth upper.route.scope < forest.depth lower.route.scope :=
    chain.imp fun upper lower hangs =>
      Forest.depth_lt_of_link (linked.upward_of_parent hangs.parent)
  have trans : IsTrans (Step n) fun upper lower =>
      forest.depth upper.route.scope < forest.depth lower.route.scope :=
    ⟨fun _ _ _ => Nat.lt_trans⟩
  apply List.pairwise_map.mpr
  apply (List.isChain_iff_pairwise.mp deeper).imp
  intro upper lower less same
  rw [same] at less
  exact Nat.lt_irrefl _ less

theorem find?_of_nodup {steps : List (Step n)} (nodup : (steps.map (·.route.scope)).Nodup)
    {step : Step n} (member : step ∈ steps) :
    steps.find? (·.route.scope = step.route.scope) = some step := by
  induction steps with
  | nil => cases member
  | cons first rest ih =>
    rw [List.map_cons, List.nodup_cons] at nodup
    rcases List.mem_cons.mp member with rfl | member
    · exact List.find?_cons_of_pos (decide_eq_true rfl)
    · rw [List.find?_cons_of_neg, ih nodup.2 member]
      intro same
      apply nodup.1
      rw [of_decide_eq_true same]
      exact List.mem_map.mpr ⟨step, member, rfl⟩

theorem commit_sparesAbove (scope : Fin n) (data : RouteData) (root : String)
    (world : World n ν) : SparesAbove scope world (world.commit scope data root) := by
  refine ⟨fun top _ different => node_commit_other different data root world, ?_, ?_⟩
  · simp
  · simp

theorem IsTree.commit (tree : world.IsTree) (scope : Fin n) (data : RouteData) (root : String) :
    (world.commit scope data root).IsTree := by
  obtain ⟨forest, linked⟩ := tree
  exact (commit_contained linked scope data root).linked.isTree

/-- Hanging below another is not a matter of what has been committed. -/
theorem Hangs.commit {upper lower : Step n} (hangs : Hangs world upper lower) (scope : Fin n)
    (data : RouteData) (root : String) : Hangs (world.commit scope data root) upper lower := by
  refine ⟨?_, ?_, ?_⟩
  · simpa using hangs.parent
  · simpa using hangs.listed
  · simpa using hangs.mountedOn

/-- Whether the handlers that an evaluation step calls, on its scope and below, only mount, and
the world is a tree whenever they have mounted a scope. -/
def KeepsTree (router : Router n ν) : (fuel : Nat) → Fin n → Request → World n ν → Prop
  | 0, _, _, _ => True
  | fuel + 1, scope, request, world => ∀ found own cursor,
    world.search router request.cursor scope = some (some found) →
    found.entry.route.readValues request.cursor = (.ok own, cursor) →
      let data := found.data router request own cursor
      CallStaysIn IsTree router found data world ∧
      ∀ called child,
        world.call router (navigateWith router (handle router fuel)) found data =
          some (true, called) →
        (called.plan found.id).continueWith = some child →
          KeepsTree router fuel child (request.behind data cursor)
            (called.deactivateAll router (called.plan found.id).deactivate)

theorem tree_of_call {found : Found n ν} {data : RouteData} {succeeded : Bool}
    {navigate : Fin n → String → World n ν → Option (Outcome × World n ν)} {called : World n ν}
    (tree : world.IsTree) (stays : CallStaysIn IsTree router found data world)
    (call : world.call router navigate found data = some (succeeded, called)) :
    called.IsTree ∧ SparesAbove found.scope world called := by
  obtain ⟨_, _, call', called_tree, mounted⟩ := call_of_staysIn IsTree
    (fun _ events tree => tree.record events) navigate tree stays
  cases call.symm.trans call'
  exact ⟨called_tree, .of_mounted called_tree mounted⟩

/-- The child that goes on stays where it hangs, and its first step hangs below the match. -/
theorem hangs_of_cascade {handle : Fin n → Request → World n ν → Option (Evaluation n × World n ν)}
    {matched : RouteId n} {request : Request} {below : List (Step n)} (tree : world.IsTree)
    (handles : ∀ {child evaluation after}, (world.plan matched).continueWith = some child →
      let cleared := world.deactivateAll router (world.plan matched).deactivate
      cleared.IsTree → handle child request cleared = some (evaluation, after) →
        after.IsTree ∧ evaluation.steps.IsChain (Hangs after) ∧
          SparesAbove child cleared after ∧
            ∀ step ∈ evaluation.steps.head?, step.route.scope = child)
    (cascade : world.cascade router handle matched request = some (below, after)) :
    after.IsTree ∧ below.IsChain (Hangs after) ∧ SparesAbove matched.scope world after ∧
      ∀ upper lower, upper.route = matched → lower ∈ below.head? → Hangs after upper lower := by
  obtain ⟨forest, upward, linked⟩ := tree.exact
  have cleared := clear_contained router matched linked
  have spares := SparesAbove.of_contained upward cleared
  rcases cascade_cases cascade with ⟨_, rfl, rfl⟩ | ⟨child, evaluation, goes, handled, rfl⟩
  · refine ⟨cleared.linked.isTree, .nil, spares, ?_⟩
    intro upper lower _ first
    cases first
  · obtain ⟨after_tree, chain, child_spares, first_scope⟩ :=
      handles goes cleared.linked.isTree handled
    have settled := plan_deactivateAll router matched linked
    rw [goes] at settled
    obtain ⟨listed, mounted⟩ := mem_of_goesOn (congrArg CascadePlan.continueWith settled)
    have link := (cleared.linked.mem_children_iff).mp listed
    have child_lifted := child_spares.lift cleared.linked.isTree link
    refine ⟨after_tree, chain, spares.trans child_lifted, ?_⟩
    intro upper lower same first
    have here := first_scope lower first
    have after_link : (after.node child).parent = some matched.scope :=
      child_spares.parent.trans link
    obtain ⟨_, after_linked⟩ := after_tree
    subst same
    refine ⟨?_, ?_, ?_⟩
    · rw [here]
      exact after_link
    · rw [here]
      exact after_linked.mem_children_iff.mpr after_link
    · rw [here]
      exact child_spares.mountedOn.trans mounted

/-- In a world that stays a tree, the steps of an evaluation hang one below the other when it is
done. A relative one starts on its own scope and has spared all above it. -/
theorem hangs_of_handle {fuel : Nat} {scope : Fin n} {request : Request}
    {evaluation : Evaluation n} (tree : world.IsTree)
    (keeps : KeepsTree router fuel scope request world)
    (h : world.handle router fuel scope request = some (evaluation, after)) :
    after.IsTree ∧ evaluation.steps.IsChain (Hangs after) ∧
      (request.cursor.relative = true → SparesAbove scope world after ∧
        ∀ step ∈ evaluation.steps.head?, step.route.scope = scope) := by
  induction fuel generalizing scope request world after evaluation with
  | zero => cases h
  | succ fuel ih =>
    obtain ⟨less, same, ⟨_, rfl, rfl⟩ | ⟨found, search, handled⟩⟩ := handle_cases h
    · exact ⟨tree, .nil, fun _ => ⟨.refl _ _, fun _ first => nomatch first⟩⟩
    · cases same
      have own_scope : request.cursor.relative = true → found.scope = scope :=
        fun relative => scope_of_search relative search
      cases handled with
      | unreadable _ => exact ⟨tree, .nil, fun _ => ⟨.refl _ _, fun _ first => nomatch first⟩⟩
      | failed read call =>
        obtain ⟨stays, _⟩ := keeps found _ _ search read
        obtain ⟨called_tree, spares⟩ := tree_of_call tree stays call
        refine ⟨called_tree, .nil, fun relative => ?_⟩
        exact ⟨own_scope relative ▸ spares, fun _ first => nomatch first⟩
      | @passed own cursor called cascaded below read call cascade =>
        obtain ⟨stays, further⟩ := keeps found own cursor search read
        obtain ⟨called_tree, spares⟩ := tree_of_call tree stays call
        obtain ⟨cascaded_tree, chain, through, first⟩ := hangs_of_cascade called_tree
          (fun goes cleared_tree handled => by
            obtain ⟨tree, chain, relative⟩ := ih cleared_tree (further _ _ call goes) handled
            exact ⟨tree, chain, relative rfl⟩)
          cascade
        refine ⟨cascaded_tree.commit _ _ _, ?_, ?_⟩
        · refine .cons ?_ ?_
          · exact chain.imp fun upper lower hangs => hangs.commit _ _ _
          · intro lower member
            exact (first _ lower rfl member).commit _ _ _
        · intro relative
          rw [← own_scope relative]
          refine ⟨(spares.trans through).trans (commit_sparesAbove _ _ _ _), ?_⟩
          intro step member
          cases member
          rfl

/-- Handlers that only mount scopes that belong below their own keep a tree. -/
theorem keepsTree_of_mountsWithin {forest : Forest n} (mounts : router.MountsWithin forest)
    (linked : world.Linked forest) (fuel : Nat) (scope : Fin n) (request : Request) :
    KeepsTree router fuel scope request world := by
  induction fuel generalizing world scope request with
  | zero => trivial
  | succ fuel ih =>
    intro found own cursor search _
    have inTable := inTable_of_search search
    refine ⟨fun changed => ?_, ?_⟩
    · exact (callStaysIn_of_mountsWithin mounts inTable linked _ changed).mono
        fun _ => Linked.isTree
    · intro called child call _
      obtain ⟨called_linked, _⟩ := linked_of_call mounts inTable linked call
      exact ih (clear_contained router found.id called_linked).linked child _

end World

end ScopedRouting
