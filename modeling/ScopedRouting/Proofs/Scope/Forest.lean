import Mathlib.Data.Fintype.Card

/-!
# Forests of scopes

Scopes are numbered below `n`, and a forest gives each of them at most one parent without closing
a circle. The number of scopes above a scope is its depth. It grows along every link and stays
below `n`, so that all walks along the links of a forest end.
-/
namespace ScopedRouting

section Counting

variable {n : Nat} (before : Fin n → Fin n → Prop) [DecidableRel before]

/-- Not all scopes are before one of them in an order. -/
theorem card_before_lt (irreflexive : ∀ scope, ¬ before scope scope) (scope : Fin n) :
    (Finset.univ.filter fun other => before other scope).card < n := by
  have proper : (Finset.univ.filter fun other => before other scope) ⊂ Finset.univ :=
    Finset.filter_ssubset.mpr ⟨scope, Finset.mem_univ scope, irreflexive scope⟩
  have fewer := Finset.card_lt_card proper
  rwa [Finset.card_univ, Fintype.card_fin] at fewer

/-- The number of scopes before a scope grows along an order. -/
theorem card_before_lt_card_before (irreflexive : ∀ scope, ¬ before scope scope)
    (transitive : ∀ {a b c}, before a b → before b c → before a c) {a b : Fin n}
    (ordered : before a b) :
    (Finset.univ.filter fun other => before other a).card <
      (Finset.univ.filter fun other => before other b).card := by
  apply Finset.card_lt_card
  rw [Finset.ssubset_iff_of_subset]
  · exact ⟨a, by simp [ordered], by simp [irreflexive]⟩
  · intro other member
    have earlier : before other a := by simpa using member
    simpa using transitive earlier ordered

end Counting

/-- A scope is below another if it is that scope or its parent is below it. -/
inductive Below {n : Nat} (upward : Fin n → Option (Fin n)) (top : Fin n) : Fin n → Prop
  | self : Below upward top top
  | under {parent child : Fin n} (link : upward child = some parent)
      (path : Below upward top parent) : Below upward top child

namespace Below

variable {n : Nat} {upward : Fin n → Option (Fin n)} {top middle scope parent child : Fin n}

theorem trans (upper : Below upward top middle) (lower : Below upward middle scope) :
    Below upward top scope := by
  induction lower with
  | self => exact upper
  | under link _ ih => exact .under link ih

theorem of_link (link : upward child = some parent) (path : Below upward child scope) :
    Below upward parent scope :=
  trans (.under link .self) path

/-- What is below a scope and not the scope itself has its parent below the scope. -/
theorem parent_of_ne (path : Below upward top child) (other : child ≠ top)
    (link : upward child = some parent) : Below upward top parent := by
  cases path with
  | self => exact False.elim (other rfl)
  | under link' path =>
    have same := Option.some.inj (link'.symm.trans link)
    subst same
    exact path

/-- Two scopes above the same scope are one above the other. -/
theorem total {a b : Fin n} (fst : Below upward a scope) (snd : Below upward b scope) :
    Below upward a b ∨ Below upward b a := by
  induction fst with
  | self => exact .inr snd
  | under link path ih =>
    cases snd with
    | self => exact .inl (.under link path)
    | under link' path' =>
      have same := Option.some.inj (link'.symm.trans link)
      subst same
      exact ih path'

theorem mono {other : Fin n → Option (Fin n)}
    (links : ∀ child parent, upward child = some parent → other child = some parent)
    (path : Below upward top scope) : Below other top scope := by
  induction path with
  | self => exact .self
  | under link _ ih => exact .under (links _ _ link) ih

end Below

/-- Parents of scopes, without a circle. -/
structure Forest (n : Nat) where
  upward : Fin n → Option (Fin n)
  acyclic : ∀ parent child, upward child = some parent → ¬ Below upward child parent

namespace Forest

variable {n : Nat} (forest : Forest n)

/-- Parents with smaller numbers than their children make a forest. -/
def ofLt {n : Nat} (upward : Fin n → Option (Fin n))
    (lower : ∀ parent child, upward child = some parent → parent < child) : Forest n where
  upward := upward
  acyclic := by
    have ordered : ∀ {top scope}, Below upward top scope → top ≤ scope := by
      intro top scope path
      induction path with
      | self => exact Nat.le_refl _
      | under link _ ih => exact Nat.le_trans ih (Nat.le_of_lt (lower _ _ link))
    intro parent child link path
    exact Nat.not_le_of_lt (lower parent child link) (ordered path)

open Classical in
/-- The scopes strictly above a scope. -/
noncomputable def above (scope : Fin n) : Finset (Fin n) :=
  Finset.univ.filter fun top => Below forest.upward top scope ∧ top ≠ scope

/-- The number of scopes strictly above a scope. -/
noncomputable def depth (scope : Fin n) : Nat :=
  (forest.above scope).card

variable {forest}

theorem not_below_parent {parent child : Fin n} (link : forest.upward child = some parent) :
    ¬ Below forest.upward child parent :=
  forest.acyclic parent child link

theorem below_antisymm {a b : Fin n} (down : Below forest.upward a b)
    (up : Below forest.upward b a) : a = b := by
  cases down with
  | self => rfl
  | under link path => exact False.elim (not_below_parent link (up.trans path))

theorem ne_of_link {parent child : Fin n} (link : forest.upward child = some parent) :
    child ≠ parent := by
  rintro rfl
  exact not_below_parent link .self

theorem depth_lt (scope : Fin n) : forest.depth scope < n := by
  classical
  exact card_before_lt (fun top scope => Below forest.upward top scope ∧ top ≠ scope)
    (fun _ strictly => strictly.2 rfl) scope

theorem depth_lt_of_link {parent child : Fin n} (link : forest.upward child = some parent) :
    forest.depth parent < forest.depth child := by
  classical
  refine card_before_lt_card_before
    (fun top scope => Below forest.upward top scope ∧ top ≠ scope)
    (fun _ strictly => strictly.2 rfl) ?_ ⟨.under link .self, (ne_of_link link).symm⟩
  rintro a b c ⟨upper, other⟩ ⟨lower, _⟩
  refine ⟨upper.trans lower, ?_⟩
  rintro rfl
  exact other (below_antisymm upper lower)

/-- Nothing is below two siblings. -/
theorem sibling_unique {parent a b scope : Fin n} (linkA : forest.upward a = some parent)
    (linkB : forest.upward b = some parent) (pathA : Below forest.upward a scope)
    (pathB : Below forest.upward b scope) : a = b := by
  rcases pathA.total pathB with path | path
  · by_cases same : b = a
    · exact same.symm
    · exact False.elim (not_below_parent linkA (path.parent_of_ne same linkB))
  · by_cases same : a = b
    · exact same
    · exact False.elim (not_below_parent linkB (path.parent_of_ne same linkA))

end Forest

end ScopedRouting
