import ScopedRouting.Segment

/-!
# Routes

A route is a compiled template. The markers at its ends are held apart from its segments, so that
the segment at each place belongs to the token at that place.
-/
namespace ScopedRouting

structure Route where
  template : String
  segments : List Segment
  /-- Whether the route only matches behind tokens that another scope took. -/
  relative : Bool
  /-- Whether tokens may be left over. -/
  wildcard : Bool

namespace Route

/-- Takes a wildcard off the end of the segments. -/
def liftWildcard (segments : List Segment) : List Segment × Bool :=
  match segments.getLast? with
  | some .wildcard => (segments.dropLast, true)
  | _ => (segments, false)

/-- Takes a relative marker off the start of the segments. -/
def liftRelative : List Segment → List Segment × Bool
  | .relative :: rest => (rest, true)
  | segments => (segments, false)

/-- The route of the given segments, one marker lifted off each end. -/
def ofSegments (template : String) (segments : List Segment) : Route :=
  let (segments, wildcard) := liftWildcard segments
  let (segments, relative) := liftRelative segments
  ⟨template, segments, relative, wildcard⟩

/-- Whether each segment accepts the token at its place behind the cursor. -/
def segmentsAccept (cursor : Cursor) : Nat → List Segment → Bool
  | _, [] => true
  | offset, segment :: rest =>
    segment.accepts (cursor.peek offset) && segmentsAccept cursor (offset + 1) rest

/-- Whether the route matches the tokens that are left. -/
def accepts (route : Route) (cursor : Cursor) : Bool :=
  if !route.wildcard && route.segments.length < cursor.remaining then false
  else if route.relative && cursor.remaining == cursor.size then false
  else segmentsAccept cursor 0 route.segments

/-- Reads segments one after the other, up to the first fault. -/
def readSegments : List Segment → Cursor → Values → Except RouteError Values × Cursor
  | [], cursor, values => (.ok values, cursor)
  | segment :: rest, cursor, values =>
    match segment.read cursor values with
    | (.ok values, cursor) => readSegments rest cursor values
    | (.error e, cursor) => (.error e, cursor)

/-- The values of the tokens that the route takes. -/
def readValues (route : Route) (cursor : Cursor) : Except RouteError Values × Cursor :=
  readSegments route.segments cursor .empty

/-- Resolves segments one after the other, up to the first fault. -/
def resolveSegments : List Segment → Values → Bool → Except RouteError (List String) × Values
  | [], values, _ => (.ok [], values)
  | segment :: rest, values, consume =>
    match segment.resolve values consume with
    | (.error e, values) => (.error e, values)
    | (.ok part, values) =>
      match resolveSegments rest values consume with
      | (.ok parts, values) => (.ok (part.toList ++ parts), values)
      | (.error e, values) => (.error e, values)

/-- The path of a map of values, and the values that are left of it. -/
def resolve (route : Route) (values : Values) (consume : Bool) :
    Except RouteError String × Values :=
  match resolveSegments route.segments values consume with
  | (.ok parts, values) => (.ok (Path.join parts), values)
  | (.error e, values) => (.error e, values)

end Route

end ScopedRouting
