import ScopedRouting.Dictionary
import ScopedRouting.Number.Shortest

/-!
# Route values

What a dynamic segment of a path is converted to: a truth value, a number or a text.
-/
namespace ScopedRouting

inductive Value where
  | bool (value : Bool)
  | number (value : Binary64)
  | text (value : String)
deriving DecidableEq

namespace Value

def toText : Value → String
  | .bool true => "true"
  | .bool false => "false"
  | .number n => n.toText
  | .text s => s

def text? : Value → Option String
  | .text s => some s
  | _ => none

def number? : Value → Option Binary64
  | .number n => some n
  | _ => none

def bool? : Value → Option Bool
  | .bool b => some b
  | _ => none

end Value

/-- Values by segment name. -/
abbrev Values := Dictionary Value

end ScopedRouting
