import ScopedRouting.Proofs.Template.Segments

/-!
# Matching from other positions

Routes look at tokens by their offset from the cursor and take them from there. So they see the
tokens that are left and nothing of those that have been taken, except that a relative route asks
whether there are any.
-/
namespace ScopedRouting

namespace Cursor

@[simp]
theorem rest_advance (cursor : Cursor) (count : Nat) :
    (cursor.advance count).rest = cursor.rest.drop count := by
  apply List.ext_getElem?
  intro offset
  rw [← peek_eq_getElem?_rest, peek_advance, peek_eq_getElem?_rest, List.getElem?_drop,
    Nat.add_comm]

theorem remaining_eq_size_iff {cursor : Cursor} (inside : cursor.position ≤ cursor.size) :
    cursor.remaining = cursor.size ↔ cursor.position = 0 := by
  rw [remaining]
  omega

variable {a b : Cursor} (same : a.rest = b.rest)
include same

theorem peek_congr (offset : Nat) : a.peek offset = b.peek offset := by
  rw [peek_eq_getElem?_rest, peek_eq_getElem?_rest, same]

theorem remaining_congr : a.remaining = b.remaining := by
  rw [remaining_eq_length_rest, remaining_eq_length_rest, same]

theorem rest_advance_congr (count : Nat) : (a.advance count).rest = (b.advance count).rest := by
  simp [same]

end Cursor

/-- Whether two cursors have been read alike and moved on by as many tokens. -/
def Cursor.InStep {α : Type} (a b : Cursor) (read_a read_b : α × Cursor) : Prop :=
  ∃ outcome count, read_a = (outcome, a.advance count) ∧ read_b = (outcome, b.advance count)

theorem Cursor.InStep.stay {α : Type} (a b : Cursor) (outcome : α) :
    InStep a b (outcome, a) (outcome, b) :=
  ⟨outcome, 0, by simp, by simp⟩

theorem Cursor.InStep.one {α : Type} (a b : Cursor) (outcome : α) :
    InStep a b (outcome, a.advance 1) (outcome, b.advance 1) :=
  ⟨outcome, 1, rfl, rfl⟩

variable {a b : Cursor}

/-- What a segment makes of a cursor depends on the next token only, and so does whether it takes
this token. -/
theorem Segment.read_inStep (same : a.rest = b.rest) (segment : Segment) (values : Values) :
    a.InStep b (segment.read a values) (segment.read b values) := by
  have next : a.peek 0 = b.peek 0 := Cursor.peek_congr same 0
  cases segment with
  | literal text =>
    by_cases present : b.peek 0 = some text
    · simpa [Segment.read, next, present] using Cursor.InStep.one a b _
    · simpa [Segment.read, next, present] using Cursor.InStep.stay a b _
  | value segment =>
    simp only [Segment.read, ValueSegment.read, Cursor.shift_eq, next]
    cases b.peek 0 with
    | some token =>
      dsimp only
      cases segment.converter.read? token with
      | some value => exact .one a b _
      | none => exact .one a b _
    | none =>
      dsimp only
      cases segment.default with
      | some value => exact .one a b _
      | none => exact .one a b _
  | wildcard => exact .stay a b _
  | relative => exact .stay a b _

namespace Route

theorem segmentsAccept_congr (same : a.rest = b.rest) (segments : List Segment) (offset : Nat) :
    segmentsAccept a offset segments = segmentsAccept b offset segments := by
  induction segments generalizing offset with
  | nil => rfl
  | cons segment rest ih => rw [segmentsAccept, segmentsAccept, Cursor.peek_congr same, ih]

/-- Cursors with the same tokens left stay in step up to the first fault, since what a segment
leaves of them is the same again. -/
theorem readSegments_inStep (same : a.rest = b.rest) (segments : List Segment) (values : Values) :
    a.InStep b (readSegments segments a values) (readSegments segments b values) := by
  induction segments generalizing a b values with
  | nil => exact .stay a b _
  | cons segment rest ih =>
    obtain ⟨outcome, first, read_a, read_b⟩ := segment.read_inStep same values
    rw [readSegments, readSegments, read_a, read_b]
    cases outcome with
    | error error => exact ⟨_, first, rfl, rfl⟩
    | ok own =>
      obtain ⟨last, others, rest_a, rest_b⟩ := ih (Cursor.rest_advance_congr same first) own
      rw [Cursor.advance_advance] at rest_a rest_b
      exact ⟨last, first + others, rest_a, rest_b⟩

/-- A relative route asks for the position only in so far as it is the first one. -/
theorem accepts_congr {route : Route} (same : a.rest = b.rest)
    (inside_a : a.position ≤ a.size) (inside_b : b.position ≤ b.size)
    (placed : route.relative = true → (a.position = 0 ↔ b.position = 0)) :
    route.accepts a = route.accepts b := by
  -- the only question about the whole cursor, and only relative routes ask it
  have start : (route.relative && a.remaining == a.size) =
      (route.relative && b.remaining == b.size) := by
    cases relative : route.relative with
    | false => rfl
    | true =>
      rw [Bool.true_and, Bool.true_and, Bool.eq_iff_iff, beq_iff_eq, beq_iff_eq,
        Cursor.remaining_eq_size_iff inside_a, Cursor.remaining_eq_size_iff inside_b]
      exact placed relative
  rw [accepts, accepts, start, Cursor.remaining_congr same, segmentsAccept_congr same]

end Route

/-- What has been taken before makes no difference to a route. On two cursors with the same tokens
left, and for a relative route with a token taken from both or from neither, the route matches both
or neither, reads the same values from both or fails on both alike, and moves both on by as many
tokens. -/
theorem matching_ignores_taken_tokens (route : Route) {a b : Cursor} (same : a.rest = b.rest)
    (inside_a : a.position ≤ a.size) (inside_b : b.position ≤ b.size)
    (placed : route.relative = true → (a.position = 0 ↔ b.position = 0)) :
    route.accepts a = route.accepts b ∧
      ∃ outcome, ∃ count ≤ a.rest.length,
        route.readValues a = (outcome, { a with position := a.position + count }) ∧
        route.readValues b = (outcome, { b with position := b.position + count }) := by
  refine ⟨Route.accepts_congr same inside_a inside_b placed, ?_⟩
  obtain ⟨outcome, count, read_a, read_b⟩ := Route.readSegments_inStep same route.segments .empty
  rw [Cursor.advance, Cursor.remaining_eq_length_rest] at read_a read_b
  rw [← same] at read_b
  exact ⟨outcome, min a.rest.length count, Nat.min_le_left _ _, read_a, read_b⟩

/-- A relative route behind two tokens and behind one. -/
theorem matching_ignores_taken_tokens_of_view :
    let a := Cursor.resumed ["areas", "x", "view", "1"] 2
    let b : Cursor := ⟨["y", "view", "1"], 1, false⟩
    ∃ route, Template.Dialect.standard.compile "~/view/:item" = .ok route ∧
      route.relative = true ∧ a.rest = b.rest ∧ route.accepts b = true ∧
      route.readValues b = (.ok (.ofList [("item", .text "1")]), { b with position := 3 }) := by
  intro a b
  have facts : (Template.Dialect.standard.compile "~/view/:item").toOption.map (fun route =>
      (route.relative, route.accepts a, route.readValues a)) =
      some (true, true, .ok (.ofList [("item", .text "1")]), { a with position := 4 }) := by
    decide +kernel
  have same : a.rest = b.rest := by decide
  obtain ⟨route, compiled, facts⟩ := exists_ok_of_toOption_map facts
  obtain ⟨relative, accepted, read⟩ : route.relative = true ∧ route.accepts a = true ∧ _ := by
    simpa only [Prod.mk.injEq] using facts
  obtain ⟨alike, outcome, count, _, read_a, read_b⟩ :=
    matching_ignores_taken_tokens route same (by decide) (by decide) fun _ => by decide
  rw [read] at read_a
  obtain ⟨rfl, moved⟩ := Prod.mk.inj read_a
  obtain rfl : count = 2 := by
    have position := congrArg Cursor.position moved
    change 4 = 2 + count at position
    omega
  exact ⟨route, compiled, relative, same, alike ▸ accepted, read_b⟩

end ScopedRouting
