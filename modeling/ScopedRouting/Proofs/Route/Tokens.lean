import Mathlib.Data.List.Basic
import ScopedRouting.Proofs.Path.Rereading
import ScopedRouting.Proofs.Route.Reading
import ScopedRouting.Proofs.Text.Encoding

/-!
# Tokens of texts

A segment for texts has the text under its name as its token, or none if there is no text. Resolving
writes these tokens encoded one after the other, and reading the path gives them back. Matching and
reading go by places, so what they do is known where each token stands at the place of its segment.
-/
namespace ScopedRouting

namespace Segment

/-- Literals that are read as they stand, and dynamic segments for texts without arguments or
default. -/
def TakesTexts : Segment → Prop
  | .literal text => Path.Stable text ∧ text ≠ ""
  | .value segment => segment.converter = .text ∧ segment.validator = none ∧ segment.default = none
  | .wildcard => False
  | .relative => False

/-- The name of a dynamic segment. -/
def name? : Segment → Option String
  | .value segment => some segment.name
  | .literal _ | .wildcard | .relative => none

/-- The token that stands for a segment, if its name has a text. -/
def token? (texts : String → Option String) : Segment → Option String
  | .literal text => some text
  | .value segment => texts segment.name
  | .wildcard | .relative => none

variable {segment : Segment} {texts : String → Option String}

theorem TakesTexts.readable (takes : segment.TakesTexts) : segment.Readable := by
  cases segment with
  | literal _ => trivial
  | value segment =>
    rw [Segment.Readable, takes.1]
    exact Converter.faithful_text
  | wildcard => exact takes
  | relative => exact takes

/-- Resolving a segment uses up the value of its name at most, whether it fails or not. -/
theorem resolve_snd (segment : Segment) (values : Values) (consume : Bool) :
    (segment.resolve values consume).2 =
      if consume then segment.name?.elim values values.erase else values := by
  cases segment with
  | value segment =>
    rw [Segment.resolve, ValueSegment.resolve]
    split
    · rfl
    · split
      · rfl
      · rfl
  | literal _ => cases consume <;> rfl
  | wildcard => cases consume <;> rfl
  | relative => cases consume <;> rfl

theorem get?_resolve_snd {values : Values} {consume : Bool} {name : String}
    (other : segment.name? ≠ some name) :
    (segment.resolve values consume).2.get? name = values.get? name := by
  rw [resolve_snd]
  cases consume with
  | false => rfl
  | true =>
    cases named : segment.name? with
    | none => rfl
    | some own =>
      have different : own ≠ name := fun same => other (named.trans (congrArg some same))
      simp [different]

/-- A segment can be resolved exactly if it accepts its token or the lack of one. -/
theorem TakesTexts.resolve_eq_ok_iff (takes : segment.TakesTexts) {values : Values}
    {consume : Bool} {part : Option String}
    (given : ∀ name ∈ segment.name?, values.get? name = (texts name).map Value.text) :
    (segment.resolve values consume).1 = .ok part ↔
      segment.accepts (segment.token? texts) = true ∧
        (segment.token? fun name => (texts name).map Percent.encodeComponent) = part := by
  cases segment with
  | literal text => simp [Segment.resolve, Segment.accepts, token?]
  | value segment =>
    obtain ⟨converter, validator, default⟩ := takes
    have value := given segment.name rfl
    cases named : texts segment.name with
    | some text =>
      rw [named] at value
      simp [Segment.resolve, ValueSegment.resolve, Segment.accepts, ValueSegment.accepts, token?,
        named, value, converter, validator, Converter.text, Value.toText]
    | none =>
      rw [named] at value
      cases optional : segment.optional with
      | true =>
        simp [Segment.resolve, ValueSegment.resolve, Segment.accepts, ValueSegment.accepts, token?,
          named, value, default, optional]
      | false =>
        simp [Segment.resolve, ValueSegment.resolve, Segment.accepts, ValueSegment.accepts,
          token?, named, value, default, optional]
  | wildcard => exact False.elim takes
  | relative => exact False.elim takes

end Segment

namespace Route

variable {segments : List Segment} {texts : String → Option String} {cursor : Cursor}

theorem resolveSegments_cons_eq_ok_iff {segment : Segment} {rest : List Segment} {values : Values}
    {consume : Bool} {parts : List String} :
    (resolveSegments (segment :: rest) values consume).1 = .ok parts ↔
      ∃ part others, (segment.resolve values consume).1 = .ok part ∧
        (resolveSegments rest (segment.resolve values consume).2 consume).1 = .ok others ∧
        part.toList ++ others = parts := by
  rw [resolveSegments]
  rcases segment.resolve values consume with ⟨_ | part, left⟩
  · simp
  · dsimp only
    rcases resolveSegments rest left consume with ⟨_ | others, last⟩
    · simp
    · simp

theorem resolve_eq_ok_iff {route : Route} {values : Values} {consume : Bool} {href : String} :
    (route.resolve values consume).1 = .ok href ↔
      ∃ parts, (resolveSegments route.segments values consume).1 = .ok parts ∧
        Path.join parts = href := by
  rw [resolve]
  rcases resolveSegments route.segments values consume with ⟨_ | parts, left⟩
  · simp
  · simp

theorem name?_ne_of_nodup {segment : Segment} {rest : List Segment}
    (distinct : ((segment :: rest).filterMap Segment.name?).Nodup) :
    (rest.filterMap Segment.name?).Nodup ∧
      ∀ name ∈ rest.filterMap Segment.name?, segment.name? ≠ some name := by
  cases named : segment.name? with
  | none =>
    rw [List.filterMap_cons_none named] at distinct
    exact ⟨distinct, fun _ _ same => by cases same⟩
  | some own =>
    rw [List.filterMap_cons_some named] at distinct
    obtain ⟨fresh, rest_distinct⟩ := List.nodup_cons.mp distinct
    refine ⟨rest_distinct, fun name member same => ?_⟩
    cases same
    exact fresh member

/-- Segments with different names can be resolved exactly if each accepts its token or the lack of
one, and the parts are the tokens that there are, with the texts encoded. With different names,
values that are used up are asked for no more. -/
theorem resolveSegments_eq_ok_iff (texts : String → Option String) {values : Values}
    {consume : Bool} {parts : List String} (takes : ∀ segment ∈ segments, segment.TakesTexts)
    (distinct : (segments.filterMap Segment.name?).Nodup)
    (given : ∀ name ∈ segments.filterMap Segment.name?,
      values.get? name = (texts name).map Value.text) :
    (resolveSegments segments values consume).1 = .ok parts ↔
      (∀ segment ∈ segments, segment.accepts (segment.token? texts) = true) ∧
        segments.filterMap
          (Segment.token? fun name => (texts name).map Percent.encodeComponent) = parts := by
  induction segments generalizing values parts with
  | nil => simp [resolveSegments]
  | cons segment rest ih =>
    obtain ⟨here, rest_takes⟩ := List.forall_mem_cons.mp takes
    obtain ⟨rest_distinct, fresh⟩ := name?_ne_of_nodup distinct
    have own : ∀ name ∈ segment.name?, values.get? name = (texts name).map Value.text :=
      fun name named => given name (List.mem_filterMap.mpr ⟨segment, List.mem_cons_self, named⟩)
    have rest_given : ∀ name ∈ rest.filterMap Segment.name?,
        (segment.resolve values consume).2.get? name = (texts name).map Value.text := by
      intro name member
      obtain ⟨lower, listed, named⟩ := List.mem_filterMap.mp member
      rw [Segment.get?_resolve_snd (fresh name member)]
      exact given name (List.mem_filterMap.mpr ⟨lower, List.mem_cons_of_mem segment listed, named⟩)
    rw [resolveSegments_cons_eq_ok_iff, List.forall_mem_cons, List.filterMap_eq_flatMap_toList,
      List.flatMap_cons, ← List.filterMap_eq_flatMap_toList]
    simp only [here.resolve_eq_ok_iff own, ih rest_takes rest_distinct rest_given]
    constructor
    · rintro ⟨_, _, ⟨accepts, rfl⟩, ⟨others, rfl⟩, rfl⟩
      exact ⟨⟨accepts, others⟩, rfl⟩
    · rintro ⟨⟨accepts, others⟩, rfl⟩
      exact ⟨_, _, ⟨accepts, rfl⟩, ⟨others, rfl⟩, rfl⟩

/-- Whether each segment has its own token, or none, at its place behind a cursor. -/
def Aligned (texts : String → Option String) (segments : List Segment) (cursor : Cursor) : Prop :=
  ∀ place, cursor.peek place = segments[place]?.bind (Segment.token? texts)

theorem Aligned.advance {segment : Segment} {rest : List Segment}
    (aligned : Aligned texts (segment :: rest) cursor) : Aligned texts rest (cursor.advance 1) := by
  intro place
  simp [aligned _]

theorem segmentsAccept_of_aligned (aligned : Aligned texts segments cursor) :
    segmentsAccept cursor 0 segments =
      segments.all fun segment => segment.accepts (segment.token? texts) := by
  induction segments generalizing cursor with
  | nil => rfl
  | cons segment rest ih =>
    have first : cursor.peek 0 = segment.token? texts := aligned 0
    rw [segmentsAccept, segmentsAccept_succ, ih aligned.advance, first, List.all_cons]

theorem bindings_of_aligned (takes : ∀ segment ∈ segments, segment.TakesTexts)
    (aligned : Aligned texts segments cursor) :
    bindings segments cursor = (segments.filterMap Segment.name?).filterMap fun name =>
      (texts name).map fun text => (name, .text (Percent.decodeOrKeep text)) := by
  induction segments generalizing cursor with
  | nil => rfl
  | cons segment rest ih =>
    obtain ⟨here, rest_takes⟩ := List.forall_mem_cons.mp takes
    have first : cursor.peek 0 = segment.token? texts := aligned 0
    rw [bindings_cons, ih rest_takes aligned.advance, first]
    cases segment with
    | literal text => rfl
    | value segment =>
      obtain ⟨converter, _, default⟩ := here
      cases given : texts segment.name with
      | none => simp [Segment.binding?, Segment.token?, Segment.name?, given, default]
      | some text =>
        simp [Segment.binding?, Segment.token?, Segment.name?, given, converter, Converter.text]
    | wildcard => exact False.elim here
    | relative => exact False.elim here

end Route

/-- What is read from literals and encoded texts are the literals and the texts, as long as the
first of them is not taken for a relative mark. -/
theorem Path.parse_join_of_takesTexts (texts : String → Option String) {segments : List Segment}
    (takes : ∀ segment ∈ segments, segment.TakesTexts)
    (nonempty : ∀ name ∈ segments.filterMap Segment.name?, texts name ≠ some "")
    (absolute : (segments.filterMap (Segment.token? texts)).head? ≠ some ".") :
    parse {} (join (segments.filterMap
      (Segment.token? fun name => (texts name).map Percent.encodeComponent))) =
        ⟨segments.filterMap (Segment.token? texts), false⟩ := by
  have each : ∀ segment ∈ segments,
      (segment.token? fun name => (texts name).map Percent.encodeComponent).toList.flatMap reread =
        (segment.token? texts).toList := by
    intro segment member
    have here := takes segment member
    cases segment with
    | literal text => simp [Segment.token?, reread_of_stable here.1 here.2]
    | value segment =>
      have some_text := nonempty segment.name (List.mem_filterMap.mpr ⟨_, member, rfl⟩)
      cases named : texts segment.name with
      | none => simp [Segment.token?, named]
      | some text =>
        rw [named] at some_text
        have written := Percent.encodeComponent_ne_empty fun empty =>
          some_text (congrArg some empty)
        have whole : pieces pathSeparator (Percent.encodeComponent text) =
            [Percent.encodeComponent text] :=
          pieces_of_not_mem (Percent.slash_not_mem_encodeComponent text) written
        simp [Segment.token?, named, reread, whole]
    | wildcard => exact False.elim here
    | relative => exact False.elim here
  have tokens := List.flatMap_congr each
  rw [← List.filterMap_eq_flatMap_toList, ← List.flatMap_assoc,
    ← List.filterMap_eq_flatMap_toList] at tokens
  refine (parse_join "." _).trans ?_
  rw [tokens]
  generalize segments.filterMap (Segment.token? texts) = tokens at absolute
  cases tokens with
  | nil => rfl
  | cons first rest => exact if_neg fun same => absolute (congrArg some same)

end ScopedRouting
