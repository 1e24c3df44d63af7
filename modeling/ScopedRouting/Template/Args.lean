import ScopedRouting.Number.Decimal
import ScopedRouting.Template.Error

/-!
# Arguments of dynamic segments

The text between angle brackets in a template constrains a dynamic segment: by a range of
numbers, a regular expression or a choice of words.
-/
namespace ScopedRouting.Template

inductive Args where
  | absent
  /-- From `min..max`, each side open if left out. -/
  | range (min max : Option Binary64)
  /-- From a text between `^` and `$`, which belong to the expression. -/
  | regex (pattern : String)
  | choice (words : List String)
deriving DecidableEq

namespace Args

/-- The pieces of a text between pairs of dots, pairs taken from the left. -/
def splitDots : List Char → List (List Char)
  | '.' :: '.' :: rest => [] :: splitDots rest
  | c :: rest =>
    match splitDots rest with
    | piece :: pieces => (c :: piece) :: pieces
    | [] => [[c]]
  | [] => [[]]

/-- Reads one bound, which is open if blank. The outer option is none for text that is no
number. -/
def readBound? (text : List Char) : Option (Option Binary64) :=
  match Blank.trim text with
  | [] => some none
  | digits => (Binary64.parse? digits).map some

def readRange? : List (List Char) → Option Args
  | [min, max] => do
    return .range (← readBound? min) (← readBound? max)
  | _ => none

/-- Whether a text begins with `^`, ends with `$` and has both. -/
def isRegex (text : List Char) : Bool :=
  1 < text.length && text.head? == some '^' && text.getLast? == some '$'

/-- Reads arguments. What is no expression and has two dots in a row must be a range. -/
def parse (text : String) : Except Error Args :=
  let chars := text.toList
  if chars = [] then .ok .absent
  else if isRegex chars then .ok (.regex text)
  else if 1 < (splitDots chars).length then
    match readRange? (splitDots chars) with
    | some args => .ok args
    | none => .error (.invalidRange text)
  else .ok (.choice ((chars.splitOn '|').map String.ofList))

end Args

end ScopedRouting.Template
