import ScopedRouting.Regex.Reader
import ScopedRouting.Template.Args

/-!
# Validators

A validator checks a path token as it stands, before it is converted.
-/
namespace ScopedRouting

abbrev Validator := String → Bool

namespace Validator

/-- Tokens that begin with a number between two bounds, both included. An open bound is the last
finite number on its side. -/
def range (min max : Option Binary64) : Validator := fun token =>
  match Binary64.leading? token with
  | some n =>
    (min.getD (.largest true)).le n && n.le (max.getD (.largest false))
  | none => false

def choice (words : List String) : Validator := fun token =>
  words.contains token

end Validator

/-- Reads regular expressions: which texts hold a match, none for a pattern that is no
expression. -/
abbrev RegexReader := String → Option Validator

def RegexReader.standard : RegexReader := fun pattern =>
  (Regex.parse? pattern).map Regex.isMatch

/-- Makes a validator from the arguments of a segment, none where they are no constraint. -/
structure ValidatorFactory where
  create : Template.Args → Except Template.Error (Option Validator)

/-- The factory over a reader of expressions. -/
def ValidatorFactory.reading (regexes : RegexReader) : ValidatorFactory where
  create
    | .absent => .ok none
    | .range min max => .ok (some (.range min max))
    | .regex pattern =>
      match regexes pattern with
      | some validator => .ok (some validator)
      | none => .error (.invalidRegex pattern)
    | .choice words => .ok (some (.choice words))

def ValidatorFactory.standard : ValidatorFactory :=
  .reading .standard

end ScopedRouting
