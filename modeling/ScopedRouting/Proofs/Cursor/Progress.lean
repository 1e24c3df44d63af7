import ScopedRouting.Route

/-!
# Progress of cursors

Taking tokens and reading segments move a cursor forward over tokens that stay the same. A cursor
that stands among its tokens or at their end never leaves them.
-/
namespace ScopedRouting

namespace Cursor

/-- The cursor some tokens further on, or at the end where fewer are left. -/
def advance (cursor : Cursor) (count : Nat) : Cursor :=
  { cursor with position := cursor.position + min cursor.remaining count }

theorem peek_eq_getElem?_rest (cursor : Cursor) (offset : Nat) :
    cursor.peek offset = cursor.rest[offset]? := by
  rw [peek, rest, List.getElem?_drop]

theorem remaining_eq_length_rest (cursor : Cursor) : cursor.remaining = cursor.rest.length := by
  rw [remaining, size, rest, List.length_drop]

theorem peek_eq_none_iff {cursor : Cursor} {offset : Nat} :
    cursor.peek offset = none ↔ cursor.remaining ≤ offset := by
  rw [peek, List.getElem?_eq_none_iff, remaining, size]
  omega

@[simp]
theorem advance_zero (cursor : Cursor) : cursor.advance 0 = cursor := by
  rw [advance, Nat.min_zero, Nat.add_zero]

@[simp]
theorem remaining_advance (cursor : Cursor) (count : Nat) :
    (cursor.advance count).remaining = cursor.remaining - count := by
  simp only [advance, remaining, size]
  omega

@[simp]
theorem advance_advance (cursor : Cursor) (first second : Nat) :
    (cursor.advance first).advance second = cursor.advance (first + second) := by
  have left := remaining_advance cursor first
  rw [advance, left]
  simp only [advance, Cursor.mk.injEq, true_and, and_true]
  omega

@[simp]
theorem shift_eq (cursor : Cursor) : cursor.shift = (cursor.peek 0, cursor.advance 1) := by
  unfold shift
  split
  · rename_i token present
    have left : ¬ cursor.remaining ≤ 0 := by
      intro none_left
      rw [peek_eq_none_iff.mpr none_left] at present
      cases present
    rw [present, advance, Nat.min_eq_right (by omega)]
  · rename_i absent
    rw [absent, advance, Nat.min_eq_left (Nat.le_succ_of_le (peek_eq_none_iff.mp absent)),
      Nat.le_zero.mp (peek_eq_none_iff.mp absent), Nat.add_zero]

@[simp]
theorem peek_advance (cursor : Cursor) (count offset : Nat) :
    (cursor.advance count).peek offset = cursor.peek (offset + count) := by
  by_cases short : cursor.remaining < count
  · have later : (cursor.advance count).remaining ≤ offset := by
      simp only [remaining_advance]
      omega
    rw [peek_eq_none_iff.mpr later, peek_eq_none_iff.mpr (by omega)]
  · have next : cursor.position + min cursor.remaining count + offset =
        cursor.position + (offset + count) := by omega
    simp only [peek, advance, next]

/-- What taking tokens can make of a cursor. -/
structure LeadsTo (before after : Cursor) : Prop where
  tokens : after.tokens = before.tokens
  relative : after.relative = before.relative
  forward : before.position ≤ after.position
  within : before.position ≤ before.size → after.position ≤ after.size

namespace LeadsTo

theorem refl (cursor : Cursor) : LeadsTo cursor cursor :=
  ⟨rfl, rfl, Nat.le_refl _, id⟩

theorem trans {a b c : Cursor} (first : LeadsTo a b) (second : LeadsTo b c) : LeadsTo a c :=
  ⟨second.tokens.trans first.tokens, second.relative.trans first.relative,
    Nat.le_trans first.forward second.forward, fun inside => second.within (first.within inside)⟩

theorem advance (cursor : Cursor) (count : Nat) : LeadsTo cursor (cursor.advance count) := by
  refine ⟨rfl, rfl, Nat.le_add_right _ _, ?_⟩
  intro inside
  simp only [Cursor.advance, remaining, size] at inside ⊢
  omega

end LeadsTo

end Cursor

theorem ValueSegment.read_advance (segment : ValueSegment) (cursor : Cursor) (values : Values) :
    (segment.read cursor values).2 = cursor.advance 1 := by
  rw [ValueSegment.read, Cursor.shift_eq]
  cases cursor.peek 0 with
  | some token =>
    dsimp only
    split <;> rfl
  | none =>
    dsimp only
    split <;> rfl

/-- Reading a segment takes at most one token, whether or not it succeeds. -/
theorem Segment.exists_advance (segment : Segment) (cursor : Cursor) (values : Values) :
    ∃ count ≤ 1, (segment.read cursor values).2 = cursor.advance count := by
  cases segment with
  | literal text =>
    by_cases present : cursor.peek 0 = some text
    · exact ⟨1, Nat.le_refl 1, by simp [Segment.read, present]⟩
    · exact ⟨0, Nat.zero_le 1, by simp [Segment.read, present]⟩
  | value segment => exact ⟨1, Nat.le_refl 1, segment.read_advance cursor values⟩
  | wildcard => exact ⟨0, Nat.zero_le 1, cursor.advance_zero.symm⟩
  | relative => exact ⟨0, Nat.zero_le 1, cursor.advance_zero.symm⟩

theorem Segment.read_leadsTo (segment : Segment) (cursor : Cursor) (values : Values) :
    cursor.LeadsTo (segment.read cursor values).2 := by
  obtain ⟨count, _, moved⟩ := segment.exists_advance cursor values
  rw [moved]
  exact Cursor.LeadsTo.advance cursor count

theorem Route.readSegments_leadsTo (segments : List Segment) (cursor : Cursor) (values : Values) :
    cursor.LeadsTo (Route.readSegments segments cursor values).2 := by
  induction segments generalizing cursor values with
  | nil => exact Cursor.LeadsTo.refl cursor
  | cons segment rest ih =>
    have first := segment.read_leadsTo cursor values
    rw [Route.readSegments]
    split
    · rename_i read
      rw [read] at first
      exact first.trans (ih _ _)
    · rename_i read
      rw [read] at first
      exact first

theorem Route.readValues_leadsTo (route : Route) (cursor : Cursor) :
    cursor.LeadsTo (route.readValues cursor).2 :=
  Route.readSegments_leadsTo route.segments cursor .empty

end ScopedRouting
