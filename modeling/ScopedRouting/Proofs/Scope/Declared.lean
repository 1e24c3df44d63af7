import ScopedRouting.Proofs.Scope.Containment
import ScopedRouting.Proofs.Template.Segments

/-!
# Routers that are built from declarations

What stands in a table comes from its declarations, so that what holds of all declared templates
and handlers holds of all entries. A router without hooks and settings is given by declarations
alone.
-/
namespace ScopedRouting

open Template

/-- What stands in a table is compiled from one of its declarations. -/
theorem Table.declared_of_build {η : Type} {dialect : Dialect}
    {declarations : List (String × η)} {table : Table η}
    (h : Table.build dialect declarations = .ok table) :
    ∀ entry ∈ table.entries, ∃ declaration ∈ declarations,
      dialect.compile declaration.1 = .ok entry.route ∧ entry.handler = declaration.2 := by
  obtain ⟨entries, built, rfl⟩ := exists_ok_of_map_ok h
  clear h
  dsimp only
  induction declarations generalizing entries with
  | nil =>
    cases built
    simp
  | cons declaration rest ih =>
    rw [List.mapM_cons] at built
    obtain ⟨first, compiled, built⟩ := exists_ok_of_bind_ok built
    obtain ⟨others, later, built⟩ := exists_ok_of_bind_ok built
    obtain ⟨route, route_compiled, rfl⟩ := exists_ok_of_map_ok compiled
    cases built
    intro entry member
    rcases List.mem_cons.mp member with rfl | member
    · exact ⟨declaration, List.mem_cons_self, route_compiled, rfl⟩
    · obtain ⟨source, listed, same⟩ := ih others later entry member
      exact ⟨source, List.mem_cons_of_mem declaration listed, same⟩

/-- Whether all tables of a router were built in faithful dialects. -/
def Router.Faithful {n : Nat} {ν : Type} (router : Router n ν) : Prop :=
  ∀ scope, ∃ (dialect : Dialect) (declarations : List (String × Handler n ν)),
    dialect.Faithful ∧ Table.build dialect declarations = .ok (router.get scope).table

/-- The table of declarations in the standard dialect, with no entry if one is at fault. -/
def Table.standard {η : Type} (declarations : List (String × η)) : Table η :=
  match Table.build .standard declarations with
  | .ok table => table
  | .error _ => ⟨[]⟩

theorem Table.exists_build_standard {η : Type} (declarations : List (String × η)) :
    ∃ kept, (∀ declaration ∈ kept, declaration ∈ declarations) ∧
      Table.build .standard kept = .ok (Table.standard declarations) := by
  unfold Table.standard
  split
  · rename_i table built
    exact ⟨declarations, fun _ => id, built⟩
  · refine ⟨[], ?_, rfl⟩
    simp

/-- Scopes with a base for their URLs and what they declare, and nothing else. -/
def Router.plain {n : Nat} {ν : Type} (baseUrl : String)
    (declarations : Fin n → List (String × Handler n ν)) : Router n ν :=
  Vector.ofFn fun scope =>
    { name := s!"scope {scope.val}", config := { baseUrl }, table := .standard (declarations scope)
      invoker := .direct, hooks := [], ambient := .empty }

theorem Router.table_plain {n : Nat} {ν : Type} (baseUrl : String)
    (declarations : Fin n → List (String × Handler n ν)) (scope : Fin n) :
    ((Router.plain baseUrl declarations).get scope).table = .standard (declarations scope) := by
  change ((Router.plain baseUrl declarations)[scope.val]).table = _
  simp only [Router.plain, Vector.getElem_ofFn]

theorem Router.faithful_plain {n : Nat} {ν : Type} (baseUrl : String)
    (declarations : Fin n → List (String × Handler n ν)) :
    (Router.plain baseUrl declarations).Faithful := by
  intro scope
  obtain ⟨kept, _, built⟩ := Table.exists_build_standard (declarations scope)
  exact ⟨.standard, kept, Dialect.faithful_standard, by rw [built, Router.table_plain]⟩

theorem Router.mountsWithin_plain {n : Nat} {ν : Type} {forest : Forest n} (baseUrl : String)
    {declarations : Fin n → List (String × Handler n ν)}
    (mounts : ∀ scope, ∀ declaration ∈ declarations scope, ∀ context : Context n,
      (declaration.2 context).MountsBelow forest scope) :
    (Router.plain baseUrl declarations).MountsWithin forest := by
  intro scope entry member context _
  have direct : ((Router.plain baseUrl declarations).get scope).invoker = .direct := by
    change ((Router.plain baseUrl declarations)[scope.val]).invoker = _
    simp only [Router.plain, Vector.getElem_ofFn]
  obtain ⟨kept, listed, built⟩ := Table.exists_build_standard (declarations scope)
  rw [Router.table_plain] at member
  obtain ⟨declaration, declared, _, same⟩ := Table.declared_of_build built entry member
  rw [direct, same]
  exact mounts scope declaration (listed declaration declared) context

/-- A sample: a page with a home and with areas, each of which mounts the scope of its items. -/
def areas : Router 2 Unit :=
  .plain "app:/" fun scope =>
    if scope = 0 then [("/home", fun _ => .finish true),
      ("/:area/*", fun _ => .mount 1 fun _ => .finish true)]
    else [("~/view/:item", fun _ => .finish true)]

/-- The items of the sample are below its page. -/
def areasForest : Forest 2 :=
  .ofLt (fun scope => if scope = 1 then some 0 else none) (by decide)

theorem areas_mountsWithin : areas.MountsWithin areasForest := by
  apply Router.mountsWithin_plain
  intro scope declaration declared context
  match scope with
  | 0 =>
    rw [if_pos rfl] at declared
    rcases List.mem_cons.mp declared with rfl | declared
    · trivial
    · cases List.mem_singleton.mp declared
      exact ⟨fun _ => rfl, fun _ => trivial⟩
  | 1 =>
    rw [if_neg (by decide)] at declared
    cases List.mem_singleton.mp declared
    trivial

end ScopedRouting
