import ScopedRouting.Proofs.Cursor.Progress
import ScopedRouting.Proofs.Path.Joining
import ScopedRouting.Proofs.Scope.Declared
import ScopedRouting.Proofs.Scope.Trees

/-!
# The tokens that a cascade takes

The root path of a scope is kept as text and its place among the tokens as a position. At every
depth the text is that of the tokens before the position, whatever the tokens are, and the next
scope starts at the position where the last one stopped.
-/
namespace ScopedRouting

variable {n : Nat} {ν : Type} {router : Router n ν}

/-- Whether steps take tokens from one position to another, each the ones behind those of the step
before, and record the text of what they take and of what is before them. -/
inductive Covers {n : Nat} (tokens : List String) : Nat → List (Step n) → Nat → Prop
  | none {position : Nat} : Covers tokens position [] position
  | more {step : Step n} {below : List (Step n)} {start stop : Nat} (starts : step.start = start)
      (order : start ≤ step.stop) (within : step.stop ≤ tokens.length)
      (path : step.data.path = Path.join ((tokens.take step.stop).drop start))
      (root : step.root = Path.join (tokens.take start))
      (rest : Covers tokens step.stop below stop) : Covers tokens start (step :: below) stop

theorem Covers.stop_le {tokens : List String} {steps : List (Step n)} {start stop : Nat}
    (covers : Covers tokens start steps stop) (within : start ≤ tokens.length) :
    stop ≤ tokens.length := by
  induction covers with
  | none => exact within
  | more _ _ inside _ _ _ ih => exact ih inside

/-- The positions between steps that cover tokens. -/
theorem Covers.exists_positions {tokens : List String} {steps : List (Step n)} {start stop : Nat}
    (covers : Covers tokens start steps stop) :
    ∃ position : Nat → Nat, position 0 = start ∧ position steps.length = stop ∧
      ∀ i, ∀ h : i < steps.length, position i ≤ position (i + 1) ∧
        steps[i].start = position i ∧ steps[i].stop = position (i + 1) ∧
        steps[i].data.path =
          Path.join ((tokens.take (position (i + 1))).drop (position i)) ∧
        steps[i].root = Path.join (tokens.take (position i)) := by
  induction covers with
  | @none position => exact ⟨fun _ => position, rfl, rfl, fun i h => absurd h (Nat.not_lt_zero i)⟩
  | @more step below start stop starts order within path root rest ih =>
    obtain ⟨later, first, last, each⟩ := ih
    refine ⟨fun i => if i = 0 then start else later (i - 1), rfl, last, ?_⟩
    intro i h
    cases i with
    | zero =>
      dsimp only
      rw [first]
      exact ⟨order, starts, rfl, path, root⟩
    | succ i => exact each i (Nat.lt_of_succ_lt_succ h)

namespace World

variable {world after : World n ν} {request : Request} {evaluation : Evaluation n}

/-- A step takes its tokens where the scope above has stopped, and the steps below go on. -/
theorem covers_of_handle {fuel : Nat} {scope : Fin n}
    (root : request.root = Path.join (request.cursor.tokens.take request.cursor.position))
    (within : request.cursor.position ≤ request.cursor.size)
    (h : world.handle router fuel scope request = some (evaluation, after)) :
    ∃ stop, Covers request.cursor.tokens request.cursor.position evaluation.steps stop := by
  induction fuel generalizing scope request world evaluation after with
  | zero => cases h
  | succ fuel ih =>
    obtain ⟨less, same, ⟨_, rfl, _⟩ | ⟨found, search, handled⟩⟩ := handle_cases h
    · exact ⟨_, .none⟩
    · cases same
      cases handled with
      | unreadable _ => exact ⟨_, .none⟩
      | failed _ _ => exact ⟨_, .none⟩
      | @passed own cursor called cascaded below read call cascade =>
        have leads := found.entry.route.readValues_leadsTo request.cursor
        rw [read] at leads
        have inside : cursor.position ≤ cursor.size := leads.within within
        have taken : (found.data router request own cursor).path = Path.join
            ((request.cursor.tokens.take cursor.position).drop request.cursor.position) := by
          rw [← leads.tokens]
          rfl
        have later : ∃ stop, Covers request.cursor.tokens cursor.position below stop := by
          rcases cascade_cases cascade with ⟨_, rfl, _⟩ | ⟨child, evaluation, _, handled, rfl⟩
          · exact ⟨_, .none⟩
          · have root_below :
                (request.behind (found.data router request own cursor) cursor).root =
                  Path.join (cursor.tokens.take cursor.position) := by
              rw [Request.behind, root, taken, leads.tokens, Path.below_join_slice _ leads.forward]
            rw [← leads.tokens]
            exact ih root_below inside handled
        obtain ⟨stop, rest⟩ := later
        refine ⟨stop, .more rfl leads.forward ?_ taken root rest⟩
        rw [← leads.tokens]
        exact inside

/-- The first step of a success is at the entry that was found, and its URL is the whole path. -/
theorem success_of_handle {fuel : Nat} {scope : Fin n} {url : String} {query : Query}
    (h : world.handle router fuel scope request = some (evaluation, after))
    (success : evaluation.outcome = .success url query) :
    url = Path.join request.cursor.tokens ∧
      ∃ found, world.search router request.cursor scope = some (some found) ∧
        evaluation.steps.head?.map (·.route) = some found.id := by
  obtain ⟨less, rfl, ⟨_, rfl, _⟩ | ⟨found, search, handled⟩⟩ := handle_cases h
  · cases success
  · cases handled with
    | unreadable _ => cases success
    | failed _ _ => cases success
    | passed read _ _ =>
      have leads := found.entry.route.readValues_leadsTo request.cursor
      rw [read] at leads
      cases success
      exact ⟨congrArg Path.join leads.tokens, found, search, rfl⟩

/-- Steps are committed from the bottom up, so that a scope keeps the match of its first step. -/
theorem state_of_handle {fuel : Nat} {scope owner : Fin n} {step : Step n}
    (h : world.handle router fuel scope request = some (evaluation, after))
    (first : evaluation.steps.find? (·.route.scope = owner) = some step) :
    (after.node owner).state = ⟨some step.data, step.root⟩ := by
  induction fuel generalizing scope request world evaluation after with
  | zero => cases h
  | succ fuel ih =>
    obtain ⟨less, same, ⟨_, rfl, _⟩ | ⟨found, search, handled⟩⟩ := handle_cases h
    · cases first
    · cases same
      cases handled with
      | unreadable _ => cases first
      | failed _ _ => cases first
      | @passed own cursor called cascaded below read call cascade =>
        change List.find? _ (_ :: below) = some step at first
        rw [List.find?_cons] at first
        split at first
        · rename_i mine
          cases first
          have same : found.scope = owner := of_decide_eq_true mine
          simp [← same]
        · rename_i other
          have different : found.scope ≠ owner := of_decide_eq_false other
          rw [node_commit_other different.symm]
          rcases cascade_cases cascade with ⟨_, rfl, _⟩ | ⟨child, evaluation, _, handled, rfl⟩
          · cases first
          · exact ih handled first

end World

open World

/-- What a cascade takes, for any tokens. A fresh cursor that leads to a success is taken over by
the entry that matches, and every step starts where the one above it stopped: its path is the text
of the tokens between two positions, its root path that of all tokens before them, and the URL is
the text of all tokens, made up of these two and of what is left. The last commit of a scope is
that of its first step. As long as the scopes stay a tree, there is one step for a scope and each
is committed, below the step that handed the cursor on. -/
theorem cascade_conserves_tokens {n : Nat} {ν : Type} {router : Router n ν} {fuel : Nat}
    {scope : Fin n} {tokens : List String} {values : Values} {query : Query}
    {world after : World n ν} {evaluation : Evaluation n} {url : String} {merged : Query}
    (h : world.handle router fuel scope ⟨"/", .ofTokens tokens, values, query⟩ =
      some (evaluation, after)) (success : evaluation.outcome = .success url merged) :
    url = Path.join tokens ∧
    (∃ found, world.search router (.ofTokens tokens) scope = some (some found) ∧
      evaluation.steps.head?.map (·.route) = some found.id) ∧
    (∃ position : Nat → Nat, position 0 = 0 ∧ position evaluation.steps.length ≤ tokens.length ∧
      ∀ i, ∀ inside : i < evaluation.steps.length,
        position i ≤ position (i + 1) ∧
        evaluation.steps[i].start = position i ∧ evaluation.steps[i].stop = position (i + 1) ∧
        evaluation.steps[i].data.path =
          Path.join ((tokens.take (position (i + 1))).drop (position i)) ∧
        evaluation.steps[i].root = Path.join (tokens.take (position i)) ∧
        Path.Enclosed evaluation.steps[i].root ∧
        url = Path.below (Path.below evaluation.steps[i].root evaluation.steps[i].data.path)
          (Path.join (tokens.drop (position (i + 1))))) ∧
    (∀ owner step, evaluation.steps.find? (·.route.scope = owner) = some step →
      (after.node owner).state = ⟨some step.data, step.root⟩) ∧
    (world.IsTree → KeepsTree router fuel scope ⟨"/", .ofTokens tokens, values, query⟩ world →
      after.IsTree ∧ (evaluation.steps.map (·.route.scope)).Nodup ∧
      evaluation.steps.IsChain (Hangs after) ∧
      ∀ step ∈ evaluation.steps,
        (after.node step.route.scope).state = ⟨some step.data, step.root⟩) := by
  obtain ⟨whole, found⟩ := success_of_handle h success
  obtain ⟨stop, covers⟩ : ∃ stop, Covers tokens 0 evaluation.steps stop :=
    covers_of_handle rfl (Nat.zero_le _) h
  obtain ⟨position, first, last, each⟩ := covers.exists_positions
  refine ⟨whole, found, ⟨position, first, ?_, ?_⟩, fun _ _ => state_of_handle h, ?_⟩
  · rw [last]
    exact covers.stop_le (Nat.zero_le _)
  · intro i inside
    obtain ⟨order, start, stop, path, root⟩ := each i inside
    refine ⟨order, start, stop, path, root, ?_, ?_⟩
    · rw [root]
      exact Path.enclosed_join _
    · rw [root, path, Path.below_join_slice _ order, Path.below_join_drop]
      exact whole
  · intro tree keeps
    obtain ⟨after_tree, chain, _⟩ := hangs_of_handle tree keeps h
    have nodup := nodup_of_hangs after_tree chain
    exact ⟨after_tree, nodup, chain, fun step member =>
      state_of_handle h (find?_of_nodup nodup member)⟩

theorem cascade_conserves_tokens_of_areas :
    ∃ evaluation after, World.initial.handle areas 2 0
        ⟨"/", .ofTokens ["a/b%", "view", "1"], .empty, .empty⟩ = some (evaluation, after) ∧
      evaluation.outcome = .success "/a/b%/view/1/" .empty ∧
      evaluation.steps.map (·.route.scope) = [0, 1] ∧ after.IsTree ∧
      ∀ step ∈ evaluation.steps,
        (after.node step.route.scope).state = ⟨some step.data, step.root⟩ := by
  have facts : (World.initial.handle areas 2 0
      ⟨"/", .ofTokens ["a/b%", "view", "1"], .empty, .empty⟩).map (fun result =>
        (result.1.outcome, result.1.steps.map (·.route.scope))) =
      some (.success "/a/b%/view/1/" .empty, [0, 1]) := by
    decide
  obtain ⟨⟨evaluation, after⟩, h, facts⟩ := Option.map_eq_some_iff.mp facts
  obtain ⟨success, scopes⟩ := Prod.mk.inj facts
  have linked : (World.initial : World 2 Unit).Linked areasForest := linked_initial
  obtain ⟨_, _, _, _, tree⟩ := cascade_conserves_tokens h success
  obtain ⟨after_tree, _, _, committed⟩ := tree linked.isTree
    (keepsTree_of_mountsWithin areas_mountsWithin linked _ _ _)
  exact ⟨evaluation, after, h, success, scopes, after_tree, committed⟩

end ScopedRouting
