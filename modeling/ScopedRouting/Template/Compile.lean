import ScopedRouting.Route
import ScopedRouting.Template.Clause

/-!
# Compiling templates

A template is cut at slashes, empty pieces are dropped, and every token is read, checked for its
place and compiled to a segment. The first token at fault decides the error.
-/
namespace ScopedRouting.Template

/-- Where dynamic segments get their converters and validators from. -/
structure Dialect where
  converters : ConverterFactory := .standard
  validators : ValidatorFactory := .standard

namespace Dialect

/-- The dialect over a reader of expressions. -/
def reading (regexes : RegexReader) : Dialect where
  validators := .reading regexes

def standard : Dialect := {}

/-- Name and converter of a dynamic segment. The first character of the written name is taken for
an indicator if the factory knows it. -/
def converterOf (dialect : Dialect) (clause : Clause) :
    Except Error (String × Converter) :=
  match clause.name.toList with
  | [] => .error (.missingName ":")
  | indicator :: stripped => do
    let found ← dialect.converters.create indicator (String.ofList stripped) clause.args
    let result := match found with
      | some converter => (String.ofList stripped, converter)
      | none => (clause.name, dialect.converters.fallback)
    if result.1 = "" then .error (.missingName (":" ++ clause.name)) else .ok result

/-- The value of a default, which is converted but not validated. -/
def defaultOf (name : String) (converter : Converter) : Presence → Except Error (Option Value)
  | .defaulted literal =>
    match if converter.accepts literal then converter.read? literal else none with
    | some value => .ok (some value)
    | none => .error (.invalidDefault name literal)
  | _ => .ok none

def compileValue (dialect : Dialect) (clause : Clause) : Except Error ValueSegment := do
  let (name, converter) ← dialect.converterOf clause
  let validator ← dialect.validators.create clause.args
  let default ← defaultOf name converter clause.presence
  return {
    name, converter, validator, default, optional := clause.presence ≠ .required }

/-- Compiles the token at a place of a template with so many tokens. -/
def compileToken (dialect : Dialect) (template : String) (count index : Nat) (text : String) :
    Except Error Segment := do
  match ← Token.parse text with
  | .relative => if index = 0 then .ok .relative else .error (.relativeNotFirst template)
  | .wildcard => if index + 1 = count then .ok .wildcard else .error (.wildcardNotLast template)
  | .value clause => (dialect.compileValue clause).map .value
  | .literal text => .ok (.literal text)

/-- Compiles tokens from a place on. -/
def compileTokens (dialect : Dialect) (template : String) (count : Nat) :
    (index : Nat) → List String → Except Error (List Segment)
  | _, [] => .ok []
  | index, text :: rest => do
    let segment ← dialect.compileToken template count index text
    return segment :: (← dialect.compileTokens template count (index + 1) rest)

/-- The route of a template. -/
def compile (dialect : Dialect) (template : String) : Except Error Route :=
  let tokens := Path.pieces pathSeparator template
  (dialect.compileTokens template tokens.length 0 tokens).map (Route.ofSegments template)

end Dialect

end ScopedRouting.Template
