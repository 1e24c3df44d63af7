import ScopedRouting.Proofs.Cursor.Progress

/-!
# Reading what matches

Matching looks at the tokens by their offset from a cursor that stands still, reading takes them
one after the other. Both meet the same token at every segment, since a segment without a token is
only followed by segments without one, and so whatever matches can be read.
-/
namespace ScopedRouting

/-- Whether every token that is accepted has a value. -/
def Converter.Faithful (converter : Converter) : Prop :=
  ∀ token, converter.accepts token = true → (converter.read? token).isSome = true

theorem Converter.faithful_text : Converter.text.Faithful :=
  fun _ _ => rfl

theorem Converter.faithful_number : Converter.number.Faithful := by
  intro token accepted
  change (Binary64.leading? token).isSome = true at accepted
  change ((Binary64.leading? token).map Value.number).isSome = true
  rw [Option.isSome_map]
  exact accepted

theorem Converter.faithful_boolean (trueWord falseWord : String) :
    (Converter.boolean trueWord falseWord).Faithful := by
  intro token accepted
  simp only [Converter.boolean, Bool.or_eq_true, decide_eq_true_eq] at accepted ⊢
  by_cases yes : token = trueWord
  · rw [if_pos yes]
    rfl
  · rw [if_neg yes, if_pos (accepted.resolve_left yes)]
    rfl

namespace Segment

/-- Literals, and dynamic segments with a faithful converter. -/
def Readable : Segment → Prop
  | .literal _ => True
  | .value segment => segment.converter.Faithful
  | .wildcard => False
  | .relative => False

/-- The name and value that a segment stores for a token, or for the lack of one. -/
def binding? : Segment → Option String → Option (String × Value)
  | .value segment, some token => (segment.converter.read? token).map (segment.name, ·)
  | .value segment, none => segment.default.map (segment.name, ·)
  | _, _ => none

end Segment

/-- Stores bindings in order, so that a later one wins. -/
def Values.store (values : Values) (bindings : List (String × Value)) : Values :=
  bindings.foldl (fun dict binding => dict.insert binding.1 binding.2) values

theorem ValueSegment.read_of_accepts {segment : ValueSegment}
    (faithful : segment.converter.Faithful) {cursor : Cursor}
    (accepted : segment.accepts (cursor.peek 0) = true) (values : Values) :
    segment.read cursor values =
      (.ok (values.store ((Segment.value segment).binding? (cursor.peek 0)).toList),
        cursor.advance 1) := by
  unfold ValueSegment.read
  rw [Cursor.shift_eq]
  cases next : cursor.peek 0 with
  | some token =>
    rw [next] at accepted
    have convertible : segment.converter.accepts token = true :=
      (Bool.and_eq_true_iff.mp accepted).1
    obtain ⟨value, read⟩ := Option.isSome_iff_exists.mp (faithful token convertible)
    simp only [read, Segment.binding?, Option.map_some, Option.toList_some]
    rfl
  | none =>
    cases default : segment.default with
    | some value =>
      simp only [Segment.binding?, default, Option.map_some, Option.toList_some]
      rfl
    | none =>
      simp only [Segment.binding?, default, Option.map_none, Option.toList_none]
      rfl

theorem Segment.read_of_accepts {segment : Segment} (readable : segment.Readable)
    {cursor : Cursor} (accepted : segment.accepts (cursor.peek 0) = true) (values : Values) :
    segment.read cursor values =
      (.ok (values.store (segment.binding? (cursor.peek 0)).toList), cursor.advance 1) := by
  cases segment with
  | literal text =>
    have present : cursor.peek 0 = some text := beq_iff_eq.mp accepted
    simp only [Segment.read, present, Cursor.shift_eq]
    rfl
  | value segment => exact ValueSegment.read_of_accepts readable accepted values
  | wildcard => exact False.elim readable
  | relative => exact False.elim readable

namespace Route

/-- Looking one token further ahead is looking from one token further on. -/
theorem segmentsAccept_succ (cursor : Cursor) (offset : Nat) (segments : List Segment) :
    segmentsAccept cursor (offset + 1) segments =
      segmentsAccept (cursor.advance 1) offset segments := by
  induction segments generalizing offset with
  | nil => rfl
  | cons segment rest ih =>
    simp [segmentsAccept, ih]

/-- What segments store in order, each for the token at its place behind a cursor. -/
def bindings (segments : List Segment) (cursor : Cursor) : List (String × Value) :=
  segments.zipIdx.filterMap fun placed => placed.1.binding? (cursor.peek placed.2)

@[simp]
theorem bindings_cons (segment : Segment) (rest : List Segment) (cursor : Cursor) :
    bindings (segment :: rest) cursor =
      (segment.binding? (cursor.peek 0)).toList ++ bindings rest (cursor.advance 1) := by
  have later : (rest.zipIdx 1).filterMap
      (fun placed => placed.1.binding? (cursor.peek placed.2)) =
        bindings rest (cursor.advance 1) := by
    rw [List.zipIdx_succ, List.filterMap_map, bindings]
    congr 1
    funext placed
    simp
  rw [← later, bindings, List.zipIdx_cons, List.filterMap_cons]
  cases segment.binding? (cursor.peek 0) with
  | none => rfl
  | some binding => rfl

theorem readSegments_of_accepts {segments : List Segment}
    (readable : ∀ segment ∈ segments, segment.Readable) {cursor : Cursor}
    (accepted : segmentsAccept cursor 0 segments = true) (values : Values) :
    readSegments segments cursor values =
      (.ok (values.store (bindings segments cursor)), cursor.advance segments.length) := by
  induction segments generalizing cursor values with
  | nil => simp [readSegments, bindings, Values.store]
  | cons segment rest ih =>
    rw [segmentsAccept, segmentsAccept_succ, Bool.and_eq_true_iff] at accepted
    have first := Segment.read_of_accepts (readable segment List.mem_cons_self) accepted.1 values
    have others := fun s hs => readable s (List.mem_cons_of_mem segment hs)
    rw [readSegments, first]
    dsimp only
    simp [ih others accepted.2, Values.store, Nat.add_comm 1]

theorem segmentsAccept_of_accepts {route : Route} {cursor : Cursor}
    (accepted : route.accepts cursor = true) :
    segmentsAccept cursor 0 route.segments = true := by
  unfold accepts at accepted
  split at accepted
  · cases accepted
  · split at accepted
    · cases accepted
    · exact accepted

theorem remaining_le_of_accepts {route : Route} {cursor : Cursor}
    (accepted : route.accepts cursor = true) (exact_length : route.wildcard = false) :
    cursor.remaining ≤ route.segments.length := by
  unfold accepts at accepted
  split at accepted
  · cases accepted
  · rename_i fits
    rw [exact_length] at fits
    simpa using fits

/-- The map that the segments of a route make of the tokens behind a cursor. -/
def valuesAt (route : Route) (cursor : Cursor) : Values :=
  .ofList (bindings route.segments cursor)

theorem readValues_of_accepts {route : Route}
    (readable : ∀ segment ∈ route.segments, segment.Readable) {cursor : Cursor}
    (accepted : route.accepts cursor = true) :
    route.readValues cursor =
      (.ok (route.valuesAt cursor), cursor.advance route.segments.length) :=
  readSegments_of_accepts readable (segmentsAccept_of_accepts accepted) .empty

theorem isExhausted_advance_of_accepts {route : Route} {cursor : Cursor}
    (accepted : route.accepts cursor = true) (exact_length : route.wildcard = false) :
    (cursor.advance route.segments.length).isExhausted = true := by
  have fits := remaining_le_of_accepts accepted exact_length
  rw [Cursor.isExhausted, beq_iff_eq, Cursor.remaining_advance]
  omega

end Route

end ScopedRouting
