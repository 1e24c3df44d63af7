import ScopedRouting.Dictionary
import ScopedRouting.Text.Percent

/-!
# Query values

The values of a query string in the form that HTML forms use: pairs between `&`, key and value
around the first `=`, blanks as `+`, other characters percent-encoded. A key has one value, the
last that the query gives it.
-/
namespace ScopedRouting

/-- Query values by key. -/
abbrev Query := Dictionary String

namespace Query

/-- Decodes one key or value. Bytes that are no UTF-8 become replacement characters. -/
def decodePart (part : List Char) : String :=
  let spaced := part.map fun c => if c = '+' then ' ' else c
  String.ofList (Utf8.decodeLossy (Percent.decodeBytes (Utf8.encode spaced)))

/-- Key and value around the first `=`, the value empty without one. -/
def decodePair (pair : List Char) : String × String :=
  (decodePart (pair.takeWhile (· ≠ '=')), decodePart ((pair.dropWhile (· ≠ '=')).drop 1))

/-- Takes off a leading question mark. -/
def stripMark : List Char → List Char
  | '?' :: rest => rest
  | text => text

/-- The pairs of a query string in order. Empty pieces between `&` are no pairs. -/
def pairs (text : List Char) : List (String × String) :=
  ((text.splitOn '&').filter (· ≠ [])).map decodePair

/-- Reads a query string, with or without its question mark. -/
def parse (text : String) : Query :=
  Dictionary.ofList (pairs (stripMark text.toList))

/-- Bytes that a form leaves as they are. -/
def isPlain (b : UInt8) : Bool :=
  Percent.isAlphanumeric b || b == 0x2A || b == 0x2D || b == 0x2E || b == 0x5F

def encodeByte (b : UInt8) : List Char :=
  if b = 0x20 then ['+'] else Percent.encodeByte isPlain b

def encodePart (part : String) : List Char :=
  (Utf8.encode part.toList).flatMap encodeByte

def encodePair (pair : String × String) : List Char :=
  encodePart pair.1 ++ '=' :: encodePart pair.2

/-- The query string, without a question mark. -/
def toText (query : Query) : String :=
  String.ofList (List.intercalate ['&'] (query.entries.map encodePair))

end Query

end ScopedRouting
