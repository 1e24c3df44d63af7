import ScopedRouting.Proofs.Cursor.Progress
import ScopedRouting.Proofs.Path.Joining

/-!
# Uses of cursors

However a cursor is made, and whatever is done with it, it stands some tokens further on among the
tokens that it was made of, or at their end. So what it has taken and what it has left are always
the two parts of one path, and their texts make up the text of that path.
-/
namespace ScopedRouting

namespace Cursor

/-- How a cursor is made. -/
inductive Origin where
  | ofPath (path : Path)
  | ofTokens (tokens : List String)
  /-- Behind tokens that count as taken, of which there may be less. -/
  | resumed (tokens : List String) (taken : Nat)

def Origin.cursor : Origin → Cursor
  | .ofPath path => .ofPath path
  | .ofTokens tokens => .ofTokens tokens
  | .resumed tokens taken => .resumed tokens taken

/-- What can be done with a cursor that makes another one of it. -/
inductive Use where
  | shift
  | toRelative
  | read (segment : Segment) (values : Values)

/-- The cursor behind a use, which may have failed. -/
def behind (cursor : Cursor) : Use → Cursor
  | .shift => cursor.shift.2
  | .toRelative => cursor.toRelative
  | .read segment values => (segment.read cursor values).2

def behindAll (cursor : Cursor) (uses : List Use) : Cursor :=
  uses.foldl behind cursor

theorem Origin.within (origin : Origin) : origin.cursor.position ≤ origin.cursor.size := by
  cases origin with
  | ofPath path => exact Nat.zero_le _
  | ofTokens tokens => exact Nat.zero_le _
  | resumed tokens taken => exact Nat.min_le_right taken tokens.length

/-- A use takes at most one token, and apart from that it can only mark the cursor as relative. -/
theorem behind_eq_advance (cursor : Cursor) (use : Use) :
    ∃ count ≤ 1, ∃ relative, cursor.behind use = { cursor.advance count with relative } := by
  cases use with
  | shift => exact ⟨1, Nat.le_refl 1, cursor.relative, by simp [behind, advance]⟩
  | toRelative => exact ⟨0, Nat.zero_le 1, true, by simp [behind, toRelative]⟩
  | read segment values =>
    obtain ⟨count, few, moved⟩ := segment.exists_advance cursor values
    exact ⟨count, few, cursor.relative, moved⟩

theorem behindAll_eq_advance (cursor : Cursor) (uses : List Use) :
    ∃ count ≤ uses.length, ∃ relative,
      cursor.behindAll uses = { cursor.advance count with relative } := by
  induction uses generalizing cursor with
  | nil => exact ⟨0, Nat.le_refl 0, cursor.relative, by simp [behindAll]⟩
  | cons use later ih =>
    obtain ⟨first, one, mark, moved⟩ := cursor.behind_eq_advance use
    obtain ⟨others, few, relative, arrived⟩ := ih (cursor.behind use)
    refine ⟨first + others, by simp only [List.length_cons]; omega, relative, ?_⟩
    -- where a cursor goes does not depend on its mark
    have unmarked : ({ cursor.advance first with relative := mark }.advance others : Cursor) =
        { (cursor.advance first).advance others with relative := mark } := rfl
    rw [moved, unmarked] at arrived
    rw [behindAll, List.foldl_cons, ← advance_advance, moved]
    exact arrived

theorem tokens_behindAll (cursor : Cursor) (uses : List Use) :
    (cursor.behindAll uses).tokens = cursor.tokens := by
  obtain ⟨count, _, relative, moved⟩ := cursor.behindAll_eq_advance uses
  simp only [moved, advance]

theorem position_behindAll (cursor : Cursor) (uses : List Use) :
    cursor.position ≤ (cursor.behindAll uses).position ∧
      (cursor.behindAll uses).position ≤ cursor.position + uses.length := by
  obtain ⟨count, few, relative, moved⟩ := cursor.behindAll_eq_advance uses
  simp only [moved, advance]
  omega

theorem within_behindAll {cursor : Cursor} (within : cursor.position ≤ cursor.size)
    (uses : List Use) : (cursor.behindAll uses).position ≤ (cursor.behindAll uses).size := by
  obtain ⟨count, _, relative, moved⟩ := cursor.behindAll_eq_advance uses
  rw [moved]
  exact (LeadsTo.advance cursor count).within within

theorem shift_of_remaining_eq_zero {cursor : Cursor} (nothing : cursor.remaining = 0) :
    cursor.shift = (none, cursor) := by
  simp only [shift, peek_eq_none_iff.mpr (Nat.le_of_eq nothing)]

/-- What has been taken and what is left are the whole path. -/
theorem sourcePath_eq (cursor : Cursor) :
    cursor.sourcePath = Path.below (cursor.takenSince 0) cursor.remainingPath :=
  (Path.below_join_drop cursor.tokens cursor.position).symm

/-- What has been taken is cut anywhere into what was taken up to there and what was taken since. -/
theorem takenSince_zero_eq {cursor : Cursor} {start : Nat} (before : start ≤ cursor.position) :
    cursor.takenSince 0 =
      Path.below (Path.join (cursor.tokens.take start)) (cursor.takenSince start) :=
  (Path.below_join_slice cursor.tokens before).symm

end Cursor

/-- A cursor never leaves its tokens. However it was made and whatever has been done with it since,
its tokens are those it was made of and it stands among them or at their end, so that it has taken
and left as many as there are. Whatever is done with it next, it never goes back, and each use takes
it on by one token at most. It looks ahead into the tokens that are left and no further, and at the
end taking another one changes nothing. The path of all tokens is that of the tokens taken and then
that of the tokens left, and the path of the tokens taken is cut in the same way at every place that
it has passed. Joined paths begin with the separator, which is left out of the second where two of
them meet. -/
theorem uses_keep_cursor_among_tokens (origin : Cursor.Origin) (uses : List Cursor.Use) :
    let cursor := origin.cursor.behindAll uses
    (cursor.tokens = origin.cursor.tokens ∧ cursor.sourcePath = origin.cursor.sourcePath) ∧
    (cursor.position ≤ cursor.size ∧ cursor.position + cursor.remaining = cursor.size) ∧
    (∀ later, cursor.position ≤ (cursor.behindAll later).position ∧
      (cursor.behindAll later).position ≤ cursor.position + later.length) ∧
    (cursor.rest.length = cursor.remaining ∧ ∀ k, cursor.peek k = cursor.rest[k]?) ∧
    (cursor.remaining = 0 → cursor.shift = (none, cursor)) ∧
    (Path.Enclosed cursor.remainingPath ∧
      cursor.sourcePath = Path.below (cursor.takenSince 0) cursor.remainingPath) ∧
    ∀ s ≤ cursor.position, Path.Enclosed (cursor.takenSince s) ∧
      cursor.takenSince 0 =
        Path.below (Path.join (cursor.tokens.take s)) (cursor.takenSince s) := by
  intro cursor
  have tokens : cursor.tokens = origin.cursor.tokens := origin.cursor.tokens_behindAll uses
  have within : cursor.position ≤ cursor.size := Cursor.within_behindAll origin.within uses
  refine ⟨⟨tokens, congrArg Path.join tokens⟩, ⟨within, Nat.add_sub_cancel' within⟩,
    cursor.position_behindAll, ⟨cursor.remaining_eq_length_rest.symm, cursor.peek_eq_getElem?_rest⟩,
    Cursor.shift_of_remaining_eq_zero, ⟨Path.enclosed_join _, cursor.sourcePath_eq⟩, ?_⟩
  intro s before
  exact ⟨Path.enclosed_join _, Cursor.takenSince_zero_eq before⟩

/-- A cursor that is resumed behind more tokens than there are stands at their end, also behind
uses that fail there. One of its tokens joins to nothing. -/
theorem uses_keep_cursor_at_end :
    let cursor := (Cursor.Origin.resumed ["a/b", "/", "c"] 7).cursor.behindAll
      [.read (.literal "x") .empty, .shift, .toRelative]
    cursor.remaining = 0 ∧ cursor.shift = (none, cursor) ∧
      2 ≤ cursor.position ∧ cursor.takenSince 0 = Path.below "/a/b/" (cursor.takenSince 2) ∧
      cursor.sourcePath = "/a/b/c/" := by
  intro cursor
  obtain ⟨⟨_, source⟩, _, _, _, stays, _, cuts⟩ :=
    uses_keep_cursor_among_tokens (.resumed ["a/b", "/", "c"] 7)
      [.read (.literal "x") .empty, .shift, .toRelative]
  have ended : cursor.remaining = 0 := by decide
  have passed : 2 ≤ cursor.position := by decide
  refine ⟨ended, stays ended, passed, ?_, source.trans (by decide)⟩
  have joined : Path.join (cursor.tokens.take 2) = "/a/b/" := by decide
  rw [← joined]
  exact (cuts 2 passed).2

end ScopedRouting
