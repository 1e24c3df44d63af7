/-!
# Faults of templates

Why a route template cannot be compiled, with the text at fault.
-/
namespace ScopedRouting.Template

inductive Error where
  /-- An argument list is opened and not closed. -/
  | unterminatedArgs (clause : String)
  /-- An argument list is closed and was not opened. -/
  | unbalancedArgs (clause : String)
  /-- Text stands between an argument list and the default. -/
  | trailingCharacters (clause : String)
  | relativeNotFirst (template : String)
  | wildcardNotLast (template : String)
  | missingName (segment : String)
  /-- A truth value takes its two words from a choice with another number of words. -/
  | booleanArity (name : String) (found : Nat)
  | invalidRange (args : String)
  | invalidRegex (pattern : String)
  | invalidDefault (name value : String)
deriving DecidableEq

def Error.message : Error → String
  | .unterminatedArgs clause => s!"unterminated argument list in segment \x60{clause}\x60"
  | .unbalancedArgs clause => s!"unbalanced argument list in segment \x60{clause}\x60"
  | .trailingCharacters clause =>
    s!"unexpected characters after argument list in segment \x60{clause}\x60"
  | .relativeNotFirst template =>
    s!"relative marker \x60~\x60 must be the first segment of \x60{template}\x60"
  | .wildcardNotLast template =>
    s!"wildcard \x60*\x60 must be the last segment of \x60{template}\x60"
  | .missingName segment => s!"dynamic segment \x60{segment}\x60 has no name"
  | .booleanArity name found =>
    s!"boolean segment \x60{name}\x60 needs exactly 2 enum values, found {found}"
  | .invalidRange args =>
    s!"invalid range \x60{args}\x60: expected \x60min..max\x60 with numeric bounds"
  | .invalidRegex pattern => s!"invalid regex \x60{pattern}\x60"
  | .invalidDefault name value =>
    s!"default value \x60{value}\x60 cannot be converted for segment \x60{name}\x60"

end ScopedRouting.Template
