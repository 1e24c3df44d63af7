import ScopedRouting.Text.Blank
import ScopedRouting.Text.Percent

/-!
# Paths

A path is a list of decoded segments and a mark for paths that are relative. Its text is cut at a
separator, empty pieces are dropped and each piece is percent-decoded; a first segment equal to
the relative indicator is removed and sets the mark. Joining writes segments between separators
again, without encoding them.
-/
namespace ScopedRouting

/-- The character between path segments. -/
def pathSeparator : Char := '/'

structure Path where
  segments : List String
  relative : Bool
deriving DecidableEq

/-- How the text of a path is read. -/
structure Path.Options where
  separator : Char := pathSeparator
  relativeIndicator : String := "."
deriving DecidableEq

namespace Path

/-- The non-empty pieces of a text between separators. -/
def pieces (separator : Char) (text : String) : List String :=
  ((text.toList.splitOn separator).filter (· ≠ [])).map String.ofList

/-- The path with the given segments, empty ones dropped. -/
def ofSegments (segments : List String) (relative : Bool) : Path :=
  ⟨segments.filter (· ≠ ""), relative⟩

/-- Takes off a leading relative indicator. -/
def ofTokens (indicator : String) : List String → Path
  | [] => ⟨[], false⟩
  | first :: rest => if first = indicator then ⟨rest, true⟩ else ⟨first :: rest, false⟩

def parse (options : Options) (text : String) : Path :=
  ofTokens options.relativeIndicator ((pieces options.separator text).map Percent.decodeOrKeep)

/-- The other path's segments behind this one's, with this one's mark. -/
def combine (path other : Path) : Path :=
  ⟨path.segments ++ other.segments, path.relative⟩

/-- Whether the segments begin with the other's. The marks do not count. -/
def startsWith (path other : Path) : Bool :=
  other.segments.isPrefixOf path.segments

/-- Whether the segments are the other's. The marks do not count. -/
def sameSegments (path other : Path) : Bool :=
  path.segments = other.segments

/-- Takes off a leading separator, if there is one. -/
def stripLeading (separator : Char) (text : List Char) : List Char :=
  match text with
  | c :: rest => if c = separator then rest else text
  | [] => []

/-- Takes off at most one separator at each end. -/
def trimSeparator (separator : Char) (text : List Char) : List Char :=
  (stripLeading separator (stripLeading separator text).reverse).reverse

def trim (separator : Char) (text : String) : String :=
  String.ofList (trimSeparator separator text.toList)

/-- The separator, then every segment that is not empty when trimmed, each with a separator. -/
def joinWith (separator : Char) (segments : List String) : String :=
  String.ofList (separator :: segments.flatMap fun segment =>
    match trimSeparator separator segment.toList with
    | [] => []
    | trimmed => trimmed ++ [separator])

def join (segments : List String) : String :=
  joinWith pathSeparator segments

def toText (path : Path) : String :=
  join path.segments

/-- Appends a joined path to a root path. Both have a separator where they meet. -/
def below (root joined : String) : String :=
  root ++ String.ofList (stripLeading pathSeparator joined.toList)

/-- User input as a URL: surrounding blanks trimmed, every backslash a separator. -/
def coerce (url : String) : String :=
  String.ofList ((Blank.trim url.toList).map fun c => if c = '\\' then '/' else c)

end Path

end ScopedRouting
