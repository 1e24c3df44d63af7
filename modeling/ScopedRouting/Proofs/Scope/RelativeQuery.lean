import ScopedRouting.Proofs.Scope.Descent
import ScopedRouting.Proofs.Scope.Spelling

/-!
# Queries of relative URLs

The query of a relative URL is what stands behind the query separator, once every backslash of the
URL has been turned into a slash. It is handed to the handler and reported by a success as it is
read, so that it arrives as it was written if there is no backslash in it.
-/
namespace ScopedRouting

/-- A text with a slash for each backslash. -/
def slashed (text : String) : String :=
  String.ofList (text.toList.map fun c => if c = '\\' then '/' else c)

theorem slashed_of_not_mem {text : String} (absent : '\\' ∉ text.toList) : slashed text = text := by
  have kept : ∀ c ∈ text.toList, (if c = '\\' then '/' else c) = c := by
    intro c member
    rw [if_neg]
    rintro rfl
    exact absent member
  rw [slashed, List.map_congr_left kept, List.map_id', String.ofList_toList]

/-- Turning backslashes into slashes makes no other character and takes none away. -/
theorem not_mem_slashed {text : String} {c : Char} (absent : c ∉ text.toList) (other : c ≠ '/') :
    c ∉ (slashed text).toList := by
  rw [slashed, String.toList_ofList, List.mem_map]
  rintro ⟨d, member, same⟩
  split at same
  · exact other same.symm
  · exact absent (same ▸ member)

theorem toList_slashed_append (a b : String) :
    (slashed (a ++ b)).toList = (slashed a).toList ++ (slashed b).toList := by
  simp only [slashed, String.toList_ofList, String.toList_append, List.map_append]

/-- A URL without blanks around it is only turned to slashes. -/
theorem Path.coerce_of_trimmed {url : String} (trimmed : Blank.trim url.toList = url.toList) :
    coerce url = slashed url := by
  rw [coerce, trimmed, slashed]

/-- What begins with the relative indicator as a whole piece is relative. -/
theorem Path.relative_of_indicator (rest : List Char) :
    (parse {} (String.ofList ('.' :: '/' :: rest))).relative = true := by
  have first : pieces '/' (String.ofList ('.' :: '/' :: rest)) =
      "." :: (cut '/' rest).map String.ofList := by
    have dot : cut '/' ['.'] = [['.']] := by decide
    rw [pieces_eq, String.toList_ofList]
    change (cut '/' (['.'] ++ '/' :: rest)).map String.ofList = _
    rw [cut_append_separator, dot]
    rfl
  have decoded : Percent.decodeOrKeep "." = "." := Percent.decodeOrKeep_of_not_mem (by decide)
  change (ofTokens "." ((pieces '/' _).map Percent.decodeOrKeep)).relative = true
  rw [first, List.map_cons, decoded]
  rfl

namespace Config

variable {path query : String}

/-- A path behind the relative indicator, and a query behind the first question mark. -/
theorem spelled_relative (no_mark : '?' ∉ path.toList)
    (trimmed : Blank.trim ("./" ++ path ++ "?" ++ query).toList =
      ("./" ++ path ++ "?" ++ query).toList) :
    (pathOf {} ("./" ++ path ++ "?" ++ query)).relative = true ∧
      queryOf {} ("./" ++ path ++ "?" ++ query) = .parse (slashed query) := by
  have dot : (slashed "./").toList = ['.', '/'] := by decide
  have mark : (slashed "?").toList = ['?'] := by decide
  have spelled : (Path.coerce ("./" ++ path ++ "?" ++ query)).toList =
      ('.' :: '/' :: (slashed path).toList) ++ '?' :: (slashed query).toList := by
    rw [Path.coerce_of_trimmed trimmed, toList_slashed_append, toList_slashed_append,
      toList_slashed_append, dot, mark, List.append_assoc]
    rfl
  have before : ∀ c ∈ '.' :: '/' :: (slashed path).toList, (c != '?') = true := by
    have absent := not_mem_slashed no_mark (by decide)
    intro c member
    rw [bne_iff_ne]
    rintro rfl
    simp [absent] at member
  have after : ('?' :: (slashed query).toList).takeWhile (· != '?') = [] := rfl
  constructor
  · change (Path.parse {} (String.ofList
      ((Path.coerce _).toList.takeWhile (· != '?')))).relative = true
    rw [spelled, List.takeWhile_append_of_pos before, after, List.append_nil]
    exact Path.relative_of_indicator (slashed path).toList
  · change Query.parse (String.ofList
      (((Path.coerce _).toList.dropWhile (· != '?')).drop 1)) = _
    rw [spelled, List.dropWhile_append_of_pos before]
    exact congrArg Query.parse String.ofList_toList

end Config

namespace World

variable {n : Nat} {ν : Type} {router : Router n ν} {world after : World n ν}
  {found : Found n ν} {request : Request} {evaluation : Evaluation n} {fuel : Nat}

/-- A match whose handler is called records the call first, with the data of the match. -/
theorem exists_trace_of_handled {own : Values} {cursor : Cursor}
    (handled : Handled router (handle router fuel) found request world evaluation after)
    (read : found.entry.route.readValues request.cursor = (.ok own, cursor))
    (changed : world.isUnchanged router found (found.data router request own cursor) = false) :
    ∃ events, after.trace = world.trace ++
      .invoked found.scope (found.data router request own cursor) :: events := by
  have follows : Follows router (handle router fuel) (course router fuel) := passes_of_handle
  have passes := follows.passes_of_handled handled
  rw [matchedCourse, read] at passes
  dsimp only [callCourse] at passes
  cases passes with
  | cons member first later =>
    obtain rfl := Set.mem_singleton_iff.mp member
    obtain ⟨events, trace⟩ := later.exists_trace
    cases first with
    | called _ _ _ =>
      refine ⟨events, ?_⟩
      rw [trace, record, List.append_assoc]
      rfl
    | skipped _ _ unchanged => exact absurd (unchanged.symm.trans changed) (by decide)

theorem exists_request_of_relative {scope : Fin n} {url : String}
    (relative : ((router.get scope).config.pathOf url).relative = true) (defaults : Values)
    (world : World n ν) :
    ∃ request, world.locate router scope url defaults = some (scope, request) ∧
      request.cursor.relative = true ∧ request.query = (router.get scope).config.queryOf url := by
  have located := locate_of_relative relative defaults world
  dsimp only at located
  refine ⟨_, located, rfl, ?_⟩
  dsimp only

/-- Without ambient values, a relative request is matched by the scope itself, and its query is that
of the match, of the call and of the success. -/
theorem query_of_relative {scope : Fin n} (relative : request.cursor.relative = true)
    (ambient : (router.get scope).ambient = .empty)
    (h : world.handle router fuel scope request = some (evaluation, after))
    (search : world.search router request.cursor scope = some (some found)) :
    found.scope = scope ∧
      (∀ own cursor, found.entry.route.readValues request.cursor = (.ok own, cursor) →
        let data := found.data router request own cursor
        data.query = request.query ∧ (world.isUnchanged router found data = false →
          ∃ events, after.trace = world.trace ++ .invoked scope data :: events)) ∧
      ∀ path result, evaluation.outcome = .success path result → result = request.query := by
  have own_scope := scope_of_search relative search
  subst own_scope
  have same : ∀ own cursor, (found.data router request own cursor).query = request.query := by
    intro own cursor
    change request.query.overlay (router.get found.scope).ambient = request.query
    rw [ambient]
    rfl
  obtain ⟨less, rfl, ⟨missing, _⟩ | ⟨again, met, handled⟩⟩ := handle_cases h
  · cases missing.symm.trans search
  · cases met.symm.trans search
    refine ⟨rfl, fun own cursor read => ⟨same own cursor, exists_trace_of_handled handled read⟩, ?_⟩
    intro path result success
    cases handled with
    | unreadable _ => cases success
    | failed _ _ => cases success
    | passed _ _ _ =>
      cases success
      exact same _ _

end World

/-- Which query a relative URL brings along, whatever state it meets. It leads to the scope itself,
and the query is read from the text behind the first question mark with each backslash turned into a
slash. Whenever a route matches, it is a route of the scope, the data of the match have this query,
and the handler is called with these data first of all, unless it is left out. A success reports the
query, too. Without backslashes it is the query as it was written. -/
theorem query_arrives_slashed {n : Nat} {ν : Type} {router : Router n ν} {scope : Fin n}
    {world : World n ν} (config : (router.get scope).config = {})
    (ambient : (router.get scope).ambient = .empty) {path query : String}
    (no_mark : '?' ∉ path.toList)
    (trimmed : Blank.trim ("./" ++ path ++ "?" ++ query).toList =
      ("./" ++ path ++ "?" ++ query).toList) (defaults : Values) :
    let url := "./" ++ path ++ "?" ++ query
    let arrived := Query.parse (slashed query)
    (∃ request, world.locate router scope url defaults = some (scope, request) ∧
      ∀ fuel evaluation after found,
        world.eval router fuel scope url defaults = some (evaluation, after) →
        world.search router request.cursor scope = some (some found) →
          found.scope = scope ∧
          (∀ own cursor, found.entry.route.readValues request.cursor = (.ok own, cursor) →
            let data := found.data router request own cursor
            data.query = arrived ∧ (world.isUnchanged router found data = false →
              ∃ events, after.trace = world.trace ++ .invoked scope data :: events)) ∧
          ∀ path result, evaluation.outcome = .success path result → result = arrived) ∧
      ('\\' ∉ query.toList → arrived = Query.parse query) := by
  intro url arrived
  obtain ⟨relative, behind⟩ := Config.spelled_relative no_mark trimmed
  rw [← config] at relative behind
  obtain ⟨request, located, marked, brought⟩ :=
    World.exists_request_of_relative relative defaults world
  rw [behind] at brought
  refine ⟨⟨request, located, ?_⟩, fun absent => congrArg Query.parse (slashed_of_not_mem absent)⟩
  intro fuel evaluation after found evaluated search
  obtain ⟨owner, same, here, handled⟩ := World.eval_eq_some_iff.mp evaluated
  cases located.symm.trans here
  have told := World.query_of_relative marked ambient handled search
  rwa [brought] at told

/-- An escaped backslash arrives. -/
theorem query_arrives_slashed_in_pages :
    ∃ evaluation after,
      World.initial.eval pages 1 0 "./a?k=a%5Cb" .empty = some (evaluation, after) ∧
        evaluation.outcome = .success "/a/" (.ofList [("k", "a\\b")]) := by
  have whole : "./" ++ "a" ++ "?" ++ "k=a%5Cb" = "./a?k=a%5Cb" := by decide
  have parsed : Query.parse "k=a%5Cb" = .ofList [("k", "a\\b")] := by decide +kernel
  have ended : ((World.initial.eval pages 1 0 "./a?k=a%5Cb" .empty).map fun result =>
      result.1.outcome.relativeUrl?) = some (some "/a/") := by
    decide +kernel
  obtain ⟨⟨_, located, brings⟩, plain⟩ :=
    @query_arrives_slashed 1 Unit pages 0 .initial get_pages.1 get_pages.2 "a" "k=a%5Cb" (by decide)
      (by decide +kernel) .empty
  obtain ⟨⟨evaluation, after⟩, evaluated, success⟩ := Option.map_eq_some_iff.mp ended
  cases outcome : evaluation.outcome with
  | failure reason =>
    rw [outcome] at success
    cases success
  | success url query =>
    rw [outcome] at success
    cases success
    obtain ⟨_, _, here, handled⟩ := World.eval_eq_some_iff.mp evaluated
    rw [whole] at located brings
    cases located.symm.trans here
    obtain ⟨_, found, search, _⟩ := World.success_of_handle handled outcome
    obtain ⟨_, _, reported⟩ := brings 1 evaluation after found evaluated search
    rw [reported _ _ outcome, plain (by decide), parsed] at outcome
    exact ⟨evaluation, after, evaluated, outcome⟩

/-- A backslash that is not escaped arrives as a slash. -/
theorem backslash_arrives_as_slash :
    Blank.trim "./a?k=a\\b".toList = "./a?k=a\\b".toList ∧
      Query.parse "k=a\\b" = .ofList [("k", "a\\b")] ∧
      ((World.initial.eval pages 1 0 "./a?k=a\\b" .empty).map fun result =>
        (result.1.outcome, result.2.trace)) =
        some (.success "/a/" (.ofList [("k", "a/b")]),
          [.invoked 0 ⟨"/:page", "/a/", .ofList [("page", .text "a")], .ofList [("k", "a/b")]⟩]) :=
  ⟨by decide, by decide +kernel, by decide +kernel⟩

end ScopedRouting
