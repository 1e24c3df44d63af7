import ScopedRouting.Converter
import ScopedRouting.Cursor
import ScopedRouting.Validator

/-!
# Route segments

A compiled segment tests a token, reads tokens from a cursor into values, and resolves values to
a token again. Reading and resolving may stop half-way; what they have used up until then stays
used up.
-/
namespace ScopedRouting

/-- Faults of reading a path and of resolving values to one. -/
inductive RouteError where
  /-- Another token, or none, stands where a literal should. -/
  | unexpectedToken (expected : String) (found : Option String)
  | conversion (name token : String)
  | missingValue (name : String)
  | unknownTemplate (template : String)
deriving DecidableEq

def RouteError.message : RouteError → String
  | .unexpectedToken expected found =>
    s!"expected \x60{expected}\x60 but found \x60" ++ found.getD "<end of path>" ++ "\x60"
  | .conversion name token => s!"cannot convert \x60{token}\x60 for segment \x60{name}\x60"
  | .missingValue name => s!"missing value for required segment \x60{name}\x60"
  | .unknownTemplate template => s!"no route declared for template \x60{template}\x60"

/-- A dynamic segment. -/
structure ValueSegment where
  name : String
  optional : Bool
  default : Option Value
  converter : Converter
  validator : Option Validator

inductive Segment where
  | literal (text : String)
  | value (segment : ValueSegment)
  | wildcard
  | relative

namespace ValueSegment

/-- A token must be convertible and valid. Only an optional segment goes without one. -/
def accepts (segment : ValueSegment) : Option String → Bool
  | none => segment.optional
  | some token => segment.converter.accepts token && segment.validator.all (· token)

/-- Takes a token and stores its value, or stores the default at the end of the path. -/
def read (segment : ValueSegment) (cursor : Cursor) (values : Values) :
    Except RouteError Values × Cursor :=
  match cursor.shift with
  | (some token, cursor) =>
    match segment.converter.read? token with
    | some value => (.ok (values.insert segment.name value), cursor)
    | none => (.error (.conversion segment.name token), cursor)
  | (none, cursor) =>
    match segment.default with
    | some value => (.ok (values.insert segment.name value), cursor)
    | none => (.ok values, cursor)

/-- Writes the value, else the default. With neither, an optional segment has no token. The
value is taken out of the values where they are consumed. -/
def resolve (segment : ValueSegment) (values : Values) (consume : Bool) :
    Except RouteError (Option String) × Values :=
  let left := if consume then values.erase segment.name else values
  match values.get? segment.name <|> segment.default with
  | some value => (.ok (some (segment.converter.write value)), left)
  | none =>
    if segment.optional then (.ok none, left)
    else (.error (.missingValue segment.name), left)

end ValueSegment

namespace Segment

def accepts : Segment → Option String → Bool
  | .literal text, token => token == some text
  | .value segment, token => segment.accepts token
  | .wildcard, _ => true
  | .relative, _ => true

def read : Segment → Cursor → Values → Except RouteError Values × Cursor
  | .literal text, cursor, values =>
    if cursor.peek 0 = some text then (.ok values, cursor.shift.2)
    else (.error (.unexpectedToken text (cursor.peek 0)), cursor)
  | .value segment, cursor, values => segment.read cursor values
  | .wildcard, cursor, values => (.ok values, cursor)
  | .relative, cursor, values => (.ok values, cursor)

def resolve : Segment → Values → Bool → Except RouteError (Option String) × Values
  | .literal text, values, _ => (.ok (some text), values)
  | .value segment, values, consume => segment.resolve values consume
  | .wildcard, values, _ => (.ok none, values)
  | .relative, values, _ => (.ok none, values)

def toText : Segment → String
  | .literal text => text
  | .value segment => ":" ++ segment.name
  | .wildcard => "*"
  | .relative => "~"

end Segment

end ScopedRouting
