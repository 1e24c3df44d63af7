import ScopedRouting.Proofs.Route.Defaults
import ScopedRouting.Proofs.Scope.Conservation
import ScopedRouting.Proofs.Scope.Spelling

/-!
# Tokens of absolute URLs

An absolute URL is evaluated at the top, on the pieces of its path. These are read like the URL
itself, whose first token says whether it is relative. So a first piece that is the relative
indicator is taken off again, although it says nothing here, and the URL matches routes that are a
token shorter than its path.
-/
namespace ScopedRouting

/-- The decoded pieces of the path of a URL, as it is read against the base. -/
def Config.wholeTokens (config : Config) (url : String) : List String :=
  (Path.pieces pathSeparator (Url.split config.baseUrl (Path.coerce url)).1).map
    Percent.decodeOrKeep

/-- What is left of the tokens of a URL, as they are read like the URL itself. -/
def Config.tokensLeft (config : Config) (url : String) : List String :=
  (Path.ofTokens config.relativeIndicator (config.wholeTokens url)).segments

/-- What an absolute URL asks for. -/
def Config.arrival (config : Config) (url : String) (defaults : Values) : Request :=
  ⟨"/", .ofTokens (config.tokensLeft url), defaults,
    .parse ((Url.split config.baseUrl (Path.coerce url)).2.getD "")⟩

theorem Path.segments_ofTokens (indicator : String) (tokens : List String) :
    (ofTokens indicator tokens).segments =
      if tokens.head? = some indicator then tokens.tail else tokens := by
  cases tokens with
  | nil => rfl
  | cons first rest =>
    simp only [ofTokens, List.head?_cons, Option.some.injEq]
    split
    · rfl
    · rfl

namespace Config

variable (config : Config) (url : String)

/-- Only the indicator is lost, and only one. -/
theorem tokensLeft_eq :
    config.tokensLeft url =
      if (config.wholeTokens url).head? = some config.relativeIndicator then
        (config.wholeTokens url).tail
      else config.wholeTokens url := by
  rw [tokensLeft, Path.segments_ofTokens]

theorem tokensLeft_eq_iff :
    config.tokensLeft url = config.wholeTokens url ↔
      (config.wholeTokens url).head? ≠ some config.relativeIndicator := by
  rw [tokensLeft_eq]
  generalize config.wholeTokens url = tokens
  constructor
  · intro same marked
    obtain ⟨rest, split⟩ := List.head?_eq_some_iff.mp marked
    rw [if_pos marked, split] at same
    exact absurd (congrArg List.length same) (Nat.ne_of_lt (Nat.lt_succ_self _))
  · exact fun unmarked => if_neg unmarked

end Config

namespace Route

/-- The route of literals. -/
def ofLiterals (tokens : List String) : Route :=
  ⟨Path.join tokens, tokens.map .literal, false, false⟩

theorem accepts_ofLiterals (tokens : List String) :
    (ofLiterals tokens).accepts (.ofTokens tokens) = true := by
  have same : (ofLiterals tokens).segments.map Segment.defaultToken = tokens := by
    simp [ofLiterals, Function.comp_def, Segment.defaultToken]
  have absolute : (ofLiterals tokens).relative = false := rfl
  have accepted := accepts_ofTokens absolute Segment.defaultToken
  rw [same] at accepted
  rw [accepted]
  simp [ofLiterals, Segment.accepts, Segment.defaultToken]

/-- No route without a wildcard is shorter than what it matches. So all tokens are left to match
exactly if none of them is missing. -/
theorem length_le_iff (tokens : List String) (count : Nat) :
    (∀ route : Route, route.wildcard = false → route.accepts (.ofTokens tokens) = true →
      count ≤ route.segments.length) ↔ count ≤ tokens.length := by
  constructor
  · intro longer
    have bound := longer (ofLiterals tokens) rfl (accepts_ofLiterals tokens)
    simpa [ofLiterals] using bound
  · intro bound route exact_length accepted
    exact bound.trans (remaining_le_of_accepts accepted exact_length)

end Route

namespace World

variable {n : Nat} {ν : Type} {router : Router n ν} {world : World n ν} {scope top : Fin n}

/-- An absolute URL leads to the top, to what is left of its tokens. -/
theorem locate_of_root {url : String}
    (absolute : ((router.get scope).config.pathOf url).relative = false)
    (root : world.root? scope = some top) (defaults : Values) :
    world.locate router scope url defaults =
      some (top, (router.get top).config.arrival url defaults) := by
  have here : ¬((router.get scope).config.pathOf url).relative = true := by
    rw [absolute]
    exact Bool.false_ne_true
  rw [locate, if_neg here, root]
  simp only [Option.bind_eq_bind, Option.bind_some, Config.arrival, Config.tokensLeft,
    Config.wholeTokens]
  generalize Url.split (router.get top).config.baseUrl (Path.coerce url) = parts
  obtain ⟨path, query⟩ := parts
  rfl

end World

/-- What an absolute evaluation matches. It is handled at the top, at the start of the path, with
the pieces of the path of the URL for tokens, except that a first piece that is the relative
indicator of the top is lost. Exactly if none is lost, no route without a wildcard matches that is
shorter than the path. A success tells the tokens that were left. -/
theorem absolute_tokens_kept_iff {n : Nat} {ν : Type} {router : Router n ν} {world : World n ν}
    {scope top : Fin n} {url : String}
    (absolute : ((router.get scope).config.pathOf url).relative = false)
    (root : world.root? scope = some top) (defaults : Values) :
    let config := (router.get top).config
    let tokens := config.wholeTokens url
    let request := config.arrival url defaults
    let left := config.tokensLeft url
    (∀ fuel, world.eval router fuel scope url defaults = world.handle router fuel top request) ∧
      request.cursor = .ofTokens left ∧
      (left = tokens ↔ tokens.head? ≠ some config.relativeIndicator) ∧
      (tokens.head? = some config.relativeIndicator → left = tokens.tail) ∧
      ((∀ route : Route, route.wildcard = false → route.accepts request.cursor = true →
        tokens.length ≤ route.segments.length) ↔
          tokens.head? ≠ some config.relativeIndicator) ∧
      ∀ fuel evaluation after path query,
        world.eval router fuel scope url defaults = some (evaluation, after) →
          evaluation.outcome = .success path query → path = Path.join left := by
  intro config tokens request left
  have evaluated : ∀ fuel, world.eval router fuel scope url defaults =
      world.handle router fuel top request := by
    intro fuel
    rw [World.eval, World.evalWith, World.locate_of_root absolute root]
    rfl
  have cursor : request.cursor = .ofTokens left := rfl
  have rest : left =
      if tokens.head? = some config.relativeIndicator then tokens.tail else tokens :=
    config.tokensLeft_eq url
  have kept : left = tokens ↔ tokens.head? ≠ some config.relativeIndicator :=
    config.tokensLeft_eq_iff url
  clear_value left request tokens config
  rw [cursor]
  refine ⟨evaluated, rfl, kept, fun marked => rest.trans (if_pos marked), ?_, ?_⟩
  · refine (Route.length_le_iff left tokens.length).trans ?_
    rw [← kept, rest]
    split
    · rename_i marked
      obtain ⟨rest, split⟩ := List.head?_eq_some_iff.mp marked
      rw [split]
      simp
    · simp
  · intro fuel evaluation after path query ended success
    rw [evaluated] at ended
    obtain ⟨whole, _⟩ := World.success_of_handle ended success
    rw [whole, cursor]
    rfl

/-- A URL with a scheme of its own and an escaped blank. -/
theorem absolute_tokens_kept_in_pages :
    ∃ evaluation after query,
      World.initial.eval pages 1 0 "app:/a%20b" .empty = some (evaluation, after) ∧
        evaluation.outcome = .success "/a b/" query := by
  have absolute : ((pages.get 0).config.pathOf "app:/a%20b").relative = false := by
    decide +kernel
  have root : (World.initial : World 1 Unit).root? 0 = some 0 := by decide
  have whole : (pages.get 0).config.wholeTokens "app:/a%20b" = ["a b"] := by decide +kernel
  have own : (pages.get 0).config.relativeIndicator = "." := by decide
  have ended : ((World.initial.eval pages 1 0 "app:/a%20b" .empty).map fun result =>
      result.1.outcome.isSuccess) = some true := by
    decide +kernel
  obtain ⟨_, _, kept, _, _, reported⟩ := absolute_tokens_kept_iff absolute root .empty
  rw [whole, own] at kept
  have left := kept.mpr (by decide)
  obtain ⟨⟨evaluation, after⟩, evaluated, success⟩ := Option.map_eq_some_iff.mp ended
  cases outcome : evaluation.outcome with
  | failure reason =>
    rw [outcome] at success
    cases success
  | success path query =>
    have joined : Path.join ["a b"] = "/a b/" := by decide
    rw [reported 1 evaluation after path query evaluated outcome, left, joined] at outcome
    exact ⟨evaluation, after, query, evaluated, outcome⟩

/-- A scope that takes URLs with a tilde for its own. -/
def homes : Router 1 Unit :=
  .ofFn fun _ =>
    { name := "homes", config := { relativeIndicator := "~" }
      table := .standard [("/:page", fun _ => .finish true)]
      invoker := .direct, hooks := [], ambient := .empty }

theorem split_tilde :
    Url.split "http://localhost/" (Path.coerce "http://localhost/~/a") = ("/~/a", none) := by
  have coerced : Path.coerce "http://localhost/~/a" = "http://localhost/~/a" := by decide
  have scheme : Url.splitScheme? (Url.clean "http://localhost/~/a") =
      some ("http", '/' :: '/' :: ("localhost".toList ++ '/' :: "~/a".toList)) := by
    decide
  have read : Url.ofPath "http" (Url.pathAfterHost .special ('/' :: "~/a".toList)) =
      ⟨"http", true, "/~/a".toList, none⟩ := by
    decide
  rw [coerced, Url.split, Url.parse?, Url.readAbsolute?_localhost scheme, read]
  rfl

/-- The tilde of a path is lost, and with it a page is shown that is not asked for. -/
theorem tilde_lost :
    ((homes.get 0).config.pathOf "http://localhost/~/a").relative = false ∧
      (homes.get 0).config.wholeTokens "http://localhost/~/a" = ["~", "a"] ∧
      (homes.get 0).config.tokensLeft "http://localhost/~/a" = ["a"] ∧
      ((World.initial.eval homes 1 0 "http://localhost/~/a" .empty).map fun result =>
        result.1.outcome) = some (.success "/a/" .empty) := by
  have config : (homes.get 0).config = { relativeIndicator := "~" } := by decide
  have absolute : ((homes.get 0).config.pathOf "http://localhost/~/a").relative = false := by
    decide +kernel
  have root : (World.initial : World 1 Unit).root? 0 = some 0 := by decide
  have whole : (homes.get 0).config.wholeTokens "http://localhost/~/a" = ["~", "a"] := by
    rw [Config.wholeTokens, config, split_tilde]
    decide +kernel
  have left : (homes.get 0).config.tokensLeft "http://localhost/~/a" = ["a"] := by
    rw [Config.tokensLeft, whole, config]
    decide
  refine ⟨absolute, whole, left, ?_⟩
  rw [World.eval, World.evalWith, World.locate_of_root absolute root, Config.arrival, left, config,
    split_tilde]
  decide

end ScopedRouting
