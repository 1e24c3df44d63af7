import Mathlib.Data.List.Nodup
import ScopedRouting.Cascade
import ScopedRouting.Proofs.Template.Segments

/-!
# Selection of children

A plan goes on with the first child that is mounted on the matched route and drops those that are
not mounted on it, in their order and as often as they are listed. Routes are told apart as such and
not by their templates, so that a child on another route of the same template is dropped as well.
-/
namespace ScopedRouting

namespace CascadePlan

variable {ι ρ : Type}

/-- Whether a plan deactivates a child and does nothing else with it. -/
def Drops (plan : CascadePlan ι) (child : ActiveChild ι ρ) : Prop :=
  child.id ∈ plan.deactivate ∧ plan.continueWith ≠ some child.id

/-- Whether a plan hands the rest of the path to a child that it leaves active. -/
def HandsTo (plan : CascadePlan ι) (child : ActiveChild ι ρ) : Prop :=
  plan.continueWith = some child.id ∧ child.id ∉ plan.deactivate

/-- Whether a plan leaves a child active and idle. -/
def Spares (plan : CascadePlan ι) (child : ActiveChild ι ρ) : Prop :=
  plan.continueWith ≠ some child.id ∧ child.id ∉ plan.deactivate

variable [DecidableEq ρ] {matched : ρ} {children : List (ActiveChild ι ρ)}

theorem ofMatch_eq (matched : ρ) (children : List (ActiveChild ι ρ)) :
    ofMatch matched children =
      ⟨(children.find? (·.mountedOn = some matched)).map ActiveChild.id,
        (children.filter (·.mountedOn ≠ some matched)).map ActiveChild.id⟩ := by
  induction children with
  | nil => rfl
  | cons child rest ih =>
    -- a child on the matched route takes the place of the one that was found behind it
    by_cases here : child.mountedOn = some matched
    · simp [ofMatch, ih, here]
    · simp [ofMatch, ih, here]

theorem mem_deactivate_iff_exists {id : ι} : id ∈ (ofMatch matched children).deactivate ↔
    ∃ child ∈ children, child.mountedOn ≠ some matched ∧ child.id = id := by
  simp [ofMatch_eq, and_assoc]

theorem exists_of_continueWith {id : ι} (goes : (ofMatch matched children).continueWith = some id) :
    ∃ child ∈ children, child.mountedOn = some matched ∧ child.id = id := by
  rw [ofMatch_eq] at goes
  obtain ⟨child, found, named⟩ := Option.map_eq_some_iff.mp goes
  exact ⟨child, List.mem_of_find?_eq_some found, by simpa using List.find?_some found, named⟩

section Distinct

variable (distinct : (children.map ActiveChild.id).Nodup) {child : ActiveChild ι ρ}
  (member : child ∈ children)
include distinct member

/-- An id stands for one child only, so that whether it is stale is decided by this child. -/
theorem mem_deactivate_iff_of_nodup :
    child.id ∈ (ofMatch matched children).deactivate ↔ child.mountedOn ≠ some matched := by
  rw [mem_deactivate_iff_exists]
  constructor
  · rintro ⟨other, listed, elsewhere, same⟩
    obtain rfl := List.inj_on_of_nodup_map distinct listed member same
    exact elsewhere
  · intro elsewhere
    exact ⟨child, member, elsewhere, rfl⟩

theorem mountedOn_of_continueWith
    (goes : (ofMatch matched children).continueWith = some child.id) :
    child.mountedOn = some matched := by
  obtain ⟨other, listed, here, same⟩ := exists_of_continueWith goes
  obtain rfl := List.inj_on_of_nodup_map distinct listed member same
  exact here

theorem drops_of_elsewhere (elsewhere : child.mountedOn ≠ some matched) :
    (ofMatch matched children).Drops child :=
  ⟨(mem_deactivate_iff_of_nodup distinct member).mpr elsewhere,
    fun goes => elsewhere (mountedOn_of_continueWith distinct member goes)⟩

theorem handsTo_or_spares (here : child.mountedOn = some matched) :
    (ofMatch matched children).HandsTo child ∨ (ofMatch matched children).Spares child := by
  have kept : child.id ∉ (ofMatch matched children).deactivate :=
    fun stale => (mem_deactivate_iff_of_nodup distinct member).mp stale here
  by_cases goes : (ofMatch matched children).continueWith = some child.id
  · exact .inl ⟨goes, kept⟩
  · exact .inr ⟨goes, kept⟩

end Distinct

end CascadePlan

/-- A plan is a selection of the first match and a filter, whatever children there are. It goes on
with the first child that is mounted on the matched route, if there is one, and deactivates those
that are not mounted on it, in order and as often as they are listed, and those on another route of
the same template among them. If no two children have an id in common, it never deactivates the
child it goes on with, and it does one thing with each child: it drops one that is not mounted on
the matched route, and one that is mounted there goes on or stays idle. -/
theorem plan_selects_first_and_filters {ι ρ : Type} [DecidableEq ρ] (route : ρ → Route)
    (matched : ρ) (children : List (ActiveChild ι ρ)) :
    let plan := CascadePlan.ofMatch matched children
    plan.continueWith = (children.find? (·.mountedOn = some matched)).map ActiveChild.id ∧
    plan.deactivate = (children.filter (·.mountedOn ≠ some matched)).map ActiveChild.id ∧
    (∀ child ∈ children, ∀ twin ≠ matched, child.mountedOn = some twin →
      (route twin).template = (route matched).template → child.id ∈ plan.deactivate) ∧
    ((children.map ActiveChild.id).Nodup →
      (∀ id, plan.continueWith = some id → id ∉ plan.deactivate) ∧
      ∀ child ∈ children,
        (child.mountedOn ≠ some matched ∧ plan.Drops child) ∨
          (child.mountedOn = some matched ∧ (plan.HandsTo child ∨ plan.Spares child))) := by
  intro plan
  refine ⟨congrArg CascadePlan.continueWith (CascadePlan.ofMatch_eq matched children),
    congrArg CascadePlan.deactivate (CascadePlan.ofMatch_eq matched children), ?_, ?_⟩
  · intro child member twin other mounted _
    have elsewhere : child.mountedOn ≠ some matched := by
      rw [mounted]
      exact fun same => other (Option.some.inj same)
    exact CascadePlan.mem_deactivate_iff_exists.mpr ⟨child, member, elsewhere, rfl⟩
  · intro distinct
    constructor
    · intro id goes stale
      obtain ⟨child, member, here, rfl⟩ := CascadePlan.exists_of_continueWith goes
      exact (CascadePlan.mem_deactivate_iff_of_nodup distinct member).mp stale here
    · intro child member
      by_cases here : child.mountedOn = some matched
      · exact .inr ⟨here, CascadePlan.handsTo_or_spares distinct member here⟩
      · exact .inl ⟨here, CascadePlan.drops_of_elsewhere distinct member here⟩

/-- Behind a child on a twin of the matched route, one that is not mounted and two on the matched
route itself. -/
theorem plan_selects_first_of_twins :
    ∃ route : Fin 2 → Route,
      (∀ place, Template.Dialect.standard.compile "/a/*" = .ok (route place)) ∧
      let children : List (ActiveChild Nat (Fin 2)) :=
        [⟨7, some 1⟩, ⟨8, none⟩, ⟨5, some 0⟩, ⟨6, some 0⟩]
      let plan := CascadePlan.ofMatch 0 children
      (children.map ActiveChild.id).Nodup ∧ plan.continueWith = some 5 ∧
        plan.deactivate = [7, 8] ∧ 5 ∉ plan.deactivate ∧
        7 ∈ plan.deactivate ∧ plan.Spares (⟨6, some 0⟩ : ActiveChild Nat (Fin 2)) := by
  have facts : (Template.Dialect.standard.compile "/a/*").toOption.map (·.template) =
      some "/a/*" := by
    decide
  obtain ⟨twin, compiled, _⟩ := exists_ok_of_toOption_map facts
  refine ⟨fun _ => twin, fun _ => compiled, ?_⟩
  intro children plan
  have distinct : (children.map ActiveChild.id).Nodup := by decide
  obtain ⟨first, stale, twins, apart⟩ := plan_selects_first_and_filters (fun _ => twin) 0 children
  obtain ⟨kept, each⟩ := apart distinct
  have goes : plan.continueWith = some 5 := first.trans (by decide)
  refine ⟨distinct, goes, stale.trans (by decide), kept 5 goes,
    twins ⟨7, some 1⟩ (by simp [children]) 1 (by decide) rfl rfl, ?_⟩
  rcases each ⟨6, some 0⟩ (by simp [children]) with elsewhere | here
  · exact absurd rfl elsewhere.1
  · rcases here.2 with goes_on | idle
    · exact absurd (goes.symm.trans goes_on.1) (by decide)
    · exact idle

end ScopedRouting
