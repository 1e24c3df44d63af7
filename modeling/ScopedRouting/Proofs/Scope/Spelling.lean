import ScopedRouting.Proofs.Scope.Inheritance
import ScopedRouting.Proofs.Scope.Repetition
import ScopedRouting.Proofs.Url.Spellings

/-!
# Relative and absolute spellings

A reference can be given to a scope with the relative indicator or with a slash in front. The one is
evaluated on the scope itself and the other at the top, which is the same scope where it has no
parent, and the mark of the cursor makes no difference where it has no children. What is left is how
both are read: the relative spelling takes the fragment for the end of the last word or value.
-/
namespace ScopedRouting

/-! Routes do not ask whether a cursor is relative, only whether tokens have been taken. -/

theorem Segment.read_toRelative (segment : Segment) (cursor : Cursor) (values : Values) :
    segment.read cursor.toRelative values =
      ((segment.read cursor values).1, (segment.read cursor values).2.toRelative) := by
  have same : cursor.toRelative.peek 0 = cursor.peek 0 := rfl
  cases segment with
  | literal text =>
    simp only [Segment.read, Cursor.shift_eq, same]
    split <;> rfl
  | value segment =>
    simp only [Segment.read, ValueSegment.read, Cursor.shift_eq, same]
    cases cursor.peek 0 with
    | some token => cases read : segment.converter.read? token <;> simp only [read] <;> rfl
    | none => cases segment.default <;> rfl
  | wildcard => rfl
  | relative => rfl

namespace Route

theorem segmentsAccept_toRelative (cursor : Cursor) (offset : Nat) (segments : List Segment) :
    segmentsAccept cursor.toRelative offset segments = segmentsAccept cursor offset segments := by
  induction segments generalizing offset with
  | nil => rfl
  | cons segment rest ih =>
    have same : cursor.toRelative.peek offset = cursor.peek offset := rfl
    rw [segmentsAccept, segmentsAccept, ih, same]

theorem accepts_toRelative (route : Route) (cursor : Cursor) :
    route.accepts cursor.toRelative = route.accepts cursor := by
  rw [accepts, accepts, segmentsAccept_toRelative]
  rfl

theorem readSegments_toRelative (segments : List Segment) (cursor : Cursor) (values : Values) :
    readSegments segments cursor.toRelative values =
      ((readSegments segments cursor values).1,
        (readSegments segments cursor values).2.toRelative) := by
  induction segments generalizing cursor values with
  | nil => rfl
  | cons segment rest ih =>
    rw [readSegments, readSegments, Segment.read_toRelative]
    obtain ⟨outcome, after⟩ := segment.read cursor values
    cases outcome with
    | ok own => exact ih after own
    | error error => rfl

end Route

theorem Table.find?_toRelative {η : Type} (table : Table η) (cursor : Cursor) :
    table.find? cursor.toRelative = table.find? cursor := by
  simp only [Table.find?, Route.accepts_toRelative]

/-- The request with its cursor marked as relative. -/
def Request.toRelative (request : Request) : Request :=
  { request with cursor := request.cursor.toRelative }

namespace World

variable {n : Nat} {ν : Type} {router : Router n ν} {world : World n ν} {scope : Fin n}

/-- A scope without children has only its own table to search. -/
theorem search_of_alone (alone : (world.node scope).children = []) (cursor : Cursor) :
    world.search router cursor scope =
      some (((router.get scope).table.find? cursor).map fun found =>
        ⟨scope, found.1, found.2⟩) := by
  unfold search
  cases n with
  | zero => exact scope.elim0
  | succ n =>
    rw [searchWith, alone]
    cases (router.get scope).table.find? cursor with
    | some found => rfl
    | none => exact ite_self (some none)

/-- Handling a match does not ask for the mark either, and hands on a relative cursor anyway. -/
theorem handleMatched_toRelative
    (handle : Fin n → Request → World n ν → Option (Evaluation n × World n ν))
    (found : Found n ν) (request : Request) :
    world.handleMatched router handle found request.toRelative =
      world.handleMatched router handle found request := by
  have read := Route.readSegments_toRelative found.entry.route.segments request.cursor .empty
  rw [handleMatched, handleMatched]
  change found.entry.route.readValues request.toRelative.cursor =
    ((found.entry.route.readValues request.cursor).1,
      (found.entry.route.readValues request.cursor).2.toRelative) at read
  rw [read]
  obtain ⟨outcome, after⟩ := found.entry.route.readValues request.cursor
  cases outcome <;> rfl

theorem handle_toRelative (alone : (world.node scope).children = []) (fuel : Nat)
    (request : Request) :
    world.handle router fuel scope request.toRelative =
      world.handle router fuel scope request := by
  cases fuel with
  | zero => rfl
  | succ fuel =>
    have search : world.search router request.toRelative.cursor scope =
        world.search router request.cursor scope := by
      rw [search_of_alone alone, search_of_alone alone, Request.toRelative,
        Table.find?_toRelative]
    simp only [handle, search, handleMatched_toRelative]
    rfl

/-- Without children and ambient values, a success has the path and the query of its request. -/
theorem outcome_of_alone (alone : (world.node scope).children = [])
    (ambient : (router.get scope).ambient = .empty) {fuel : Nat} {request : Request}
    {evaluation : Evaluation n} {after : World n ν}
    (h : world.handle router fuel scope request = some (evaluation, after))
    (success : evaluation.outcome.isSuccess = true) :
    evaluation.outcome = .success (Path.join request.cursor.tokens) request.query := by
  cases outcome : evaluation.outcome with
  | failure reason =>
    rw [outcome] at success
    cases success
  | success url query =>
    obtain ⟨rfl, found, search, route⟩ := success_of_handle h outcome
    obtain ⟨first, below, steps, _, rfl⟩ := query_of_success h outcome
    rw [search_of_alone alone] at search
    obtain ⟨_, _, rfl⟩ := Option.map_eq_some_iff.mp (Option.some.inj search)
    rw [steps, List.head?_cons, Option.map_some] at route
    rw [Option.some.inj route]
    change Outcome.success _ (request.query.overlay (router.get scope).ambient) = _
    rw [ambient]
    rfl

end World

namespace Url.Reference

variable (reference : Reference)

/-- What a reference asks for as a URL. -/
def request (defaults : Values) : Request :=
  ⟨"/", .ofTokens reference.words, defaults, .ofList reference.values⟩

/-- What a reference asks for with its fragment left on the last word or value. -/
def markedRequest (defaults : Values) : Request :=
  ⟨"/", .ofTokens reference.markedWords, defaults, .ofList reference.markedValues⟩

theorem markedRequest_of_no_fragment (no_fragment : reference.fragment = none)
    (defaults : Values) : reference.markedRequest defaults = reference.request defaults := by
  obtain ⟨words, values⟩ := reference.marked_iff.mpr no_fragment
  rw [markedRequest, words, values, request]

end Url.Reference

namespace World

open Url (Reference)

variable {n : Nat} {ν : Type} {router : Router n ν} {world : World n ν} {scope : Fin n}

theorem locate_of_absolute {url : String} {config : Config}
    (own : (router.get scope).config = config) (absolute : (config.pathOf url).relative = false)
    (top : (world.node scope).parent = none) (defaults : Values) :
    world.locate router scope url defaults = some (scope, ⟨"/",
      .ofPath (Path.parse config.pathOptions (Url.split config.baseUrl (Path.coerce url)).1),
      defaults, .parse ((Url.split config.baseUrl (Path.coerce url)).2.getD "")⟩) := by
  subst own
  have root : world.root? scope = some scope := by
    rw [root?, climb?]
    simp only [top]
  have here : ¬((router.get scope).config.pathOf url).relative = true := by
    rw [absolute]
    exact Bool.false_ne_true
  rw [locate, if_neg here, root]
  simp only [Option.bind_eq_bind, Option.bind_some]
  rfl

theorem eval_absolute (config : (router.get scope).config = {})
    (top : (world.node scope).parent = none) (reference : Reference) (fuel : Nat)
    (defaults : Values) :
    world.eval router fuel scope reference.absolute defaults =
      world.handle router fuel scope (reference.request defaults) := by
  have absolute : (Config.pathOf {} reference.absolute).relative = false := by
    rw [reference.pathOf_spellings.1]
  have located := locate_of_absolute config absolute top defaults
  obtain ⟨words, values⟩ := reference.split_spelling
  change _ = some (scope, (⟨_, .ofPath (Path.parse {} _), _, _⟩ : Request)) at located
  rw [words, values] at located
  rw [eval, evalWith, located]
  rfl

theorem eval_relative (config : (router.get scope).config = {})
    (alone : (world.node scope).children = []) (root : (world.node scope).state.rootPath = "/")
    (reference : Reference) (fuel : Nat) (defaults : Values) :
    world.eval router fuel scope reference.relative defaults =
      world.handle router fuel scope (reference.markedRequest defaults) := by
  have relative : ((router.get scope).config.pathOf reference.relative).relative = true := by
    rw [config, reference.pathOf_spellings.2]
  have no_tokens : (Path.parse {} "/").segments = [] := by decide
  have located := locate_of_relative relative defaults world
  dsimp only at located
  rw [config, root, reference.pathOf_spellings.2, reference.queryOf_relative] at located
  change _ = some (scope, (⟨_, .resumed ((Path.parse {} "/").segments ++ _)
    (Path.parse {} "/").segments.length, _, _⟩ : Request)) at located
  rw [no_tokens, Cursor.resumed, List.length_nil, Nat.zero_min, List.nil_append] at located
  rw [eval, evalWith, located]
  exact handle_toRelative alone fuel (reference.markedRequest defaults)

end World

/-- Both spellings of a reference, given to a scope on its own in whatever state it is. The slash
spelling asks for the words and values of the reference, and the relative one for those with the
fragment left at their end. Without a fragment that is the same, down to the state that the
evaluations end in. With a fragment no two successes agree, in their URL if there is no query and in
their query otherwise. -/
theorem spellings_agree_without_fragment {n : Nat} {ν : Type} {router : Router n ν}
    {scope : Fin n} {world : World n ν} (config : (router.get scope).config = {})
    (ambient : (router.get scope).ambient = .empty) (top : (world.node scope).parent = none)
    (alone : (world.node scope).children = []) (root : (world.node scope).state.rootPath = "/")
    (reference : Url.Reference) (fuel : Nat) (defaults : Values) :
    world.eval router fuel scope reference.absolute defaults =
        world.handle router fuel scope
          ⟨"/", .ofTokens reference.words, defaults, .ofList reference.values⟩ ∧
      world.eval router fuel scope reference.relative defaults =
        world.handle router fuel scope
          ⟨"/", .ofTokens reference.markedWords, defaults, .ofList reference.markedValues⟩ ∧
      (reference.fragment = none → world.eval router fuel scope reference.relative defaults =
        world.eval router fuel scope reference.absolute defaults) ∧
      ∀ first second after other,
        world.eval router fuel scope reference.absolute defaults = some (first, after) →
        world.eval router fuel scope reference.relative defaults = some (second, other) →
        first.outcome.isSuccess = true → second.outcome.isSuccess = true →
          (second.outcome = first.outcome ↔ reference.fragment = none) := by
  have absolute := World.eval_absolute config top reference fuel defaults
  have relative := World.eval_relative config alone root reference fuel defaults
  refine ⟨absolute, relative, fun no_fragment => ?_, ?_⟩
  · rw [absolute, relative, reference.markedRequest_of_no_fragment no_fragment]
  · intro first second after other evaluated evaluated' success success'
    rw [absolute] at evaluated
    rw [relative] at evaluated'
    rw [World.outcome_of_alone alone ambient evaluated success,
      World.outcome_of_alone alone ambient evaluated' success', Outcome.success.injEq,
      ← reference.marked_iff]
    refine and_congr_left fun _ => ⟨fun same => ?_, congrArg Path.join⟩
    have again := congrArg (Path.pieces pathSeparator) same
    change Path.pieces _ (Path.join reference.markedWords) =
      Path.pieces _ (Path.join reference.words) at again
    rwa [Path.pieces_join reference.reads_of_mem_markedWords,
      Path.pieces_join reference.reads_of_mem_words] at again

/-- A scope that shows the page of a name. -/
def pages : Router 1 Unit :=
  .plain "http://localhost/" fun _ => [("/:page", fun _ => .finish true)]

theorem get_pages : (pages.get 0).config = {} ∧ (pages.get 0).ambient = .empty := by
  change (pages[(0 : Fin 1).val]).config = {} ∧ (pages[(0 : Fin 1).val]).ambient = .empty
  simp only [pages, Router.plain, Vector.getElem_ofFn, and_self]

/-- The page `a` at `top`. -/
def heading : Url.Reference where
  tokens := [⟨"a", by decide, List.all_eq_true.mp (by decide)⟩]
  some_tokens := by decide
  pairs := []
  fragment := some ⟨"top", by decide, List.all_eq_true.mp (by decide)⟩

theorem spellings_agree_without_fragment_in_pages :
    ∃ first second after other,
      World.initial.eval pages 1 0 "/a#top" .empty = some (first, after) ∧
      World.initial.eval pages 1 0 "./a#top" .empty = some (second, other) ∧
      first.outcome.isSuccess = true ∧ second.outcome.isSuccess = true ∧
      second.outcome ≠ first.outcome := by
  have top : ((.initial : World 1 Unit).node 0).parent = none := rfl
  obtain ⟨absolute, relative, _, agree⟩ :=
    spellings_agree_without_fragment get_pages.1 get_pages.2 top rfl rfl heading 1 .empty
  have first : ((World.initial.handle pages 1 0 ⟨"/", .ofTokens heading.words, .empty,
      .ofList heading.values⟩).map fun result => result.1.outcome.isSuccess) = some true := by
    decide
  have second : ((World.initial.handle pages 1 0 ⟨"/", .ofTokens heading.markedWords, .empty,
      .ofList heading.markedValues⟩).map fun result => result.1.outcome.isSuccess) =
        some true := by
    decide
  obtain ⟨⟨first, after⟩, evaluated, success⟩ := Option.map_eq_some_iff.mp first
  obtain ⟨⟨second, other⟩, evaluated', success'⟩ := Option.map_eq_some_iff.mp second
  have spelled : heading.absolute = "/a#top" ∧ heading.relative = "./a#top" := by
    decide
  rw [← absolute] at evaluated
  rw [← relative] at evaluated'
  have differ := agree first second after other evaluated evaluated' success success'
  rw [spelled.1] at evaluated
  rw [spelled.2] at evaluated'
  refine ⟨first, second, after, other, evaluated, evaluated', success, success', fun same => ?_⟩
  cases differ.mp same

/-- With a fragment, one spelling shows the page `a` and the other the page `a#top`. -/
theorem spellings_differ_in_fragment :
    (((World.initial.eval pages 1 0 "/a#top" .empty).bind fun result =>
        result.1.steps.head?.map (·.data)) =
      some ⟨"/:page", "/a/", .ofList [("page", .text "a")], .empty⟩) ∧
    (((World.initial.eval pages 1 0 "./a#top" .empty).bind fun result =>
        result.1.steps.head?.map (·.data)) =
      some ⟨"/:page", "/a#top/", .ofList [("page", .text "a#top")], .empty⟩) := by
  have spelled : heading.absolute = "/a#top" := by
    decide
  rw [← spelled, World.eval_absolute get_pages.1 rfl]
  decide +kernel

end ScopedRouting
