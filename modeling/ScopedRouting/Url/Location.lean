import ScopedRouting.Text.Percent

/-!
# Paths in URLs

The path of a hierarchical URL is built piece by piece. A piece of one dot is nothing, a piece of
two dots takes the last piece away, other pieces are appended with the characters escaped that a
path may not have. In a file URL a drive letter at the start of the path is never taken away.
-/
namespace ScopedRouting.Url

/-- The kinds of schemes, which differ in how a URL is read. -/
inductive SchemeKind where
  | file
  | special
  | other
deriving DecidableEq

def SchemeKind.isSpecial (kind : SchemeKind) : Bool :=
  kind != .other

def SchemeKind.ofScheme (scheme : String) : SchemeKind :=
  if scheme = "file" then .file
  else if ["http", "https", "ws", "wss", "ftp"].contains scheme then .special
  else .other

def isControlOrNonAscii (b : UInt8) : Bool :=
  b < 0x20 || 0x7F ≤ b

/-- Bytes that stand for themselves in a path of pieces. -/
def isPathByte (b : UInt8) : Bool :=
  !isControlOrNonAscii b && !(" \"#<>?\x60\x7b\x7d".toList.contains (Char.ofNat b.toNat))

/-- Bytes that stand for themselves in a query. Only special URLs escape the single quote. -/
def isQueryByte (special : Bool) (b : UInt8) : Bool :=
  !isControlOrNonAscii b && !(" \"#<>".toList.contains (Char.ofNat b.toNat)) &&
    !(special && b == 0x27)

def escapeWith (keep : UInt8 → Bool) (text : List Char) : List Char :=
  Percent.encodeBytes keep (Utf8.encode text)

/-- Whether a text is a letter with a colon or, in loose form, a bar. -/
def isDriveLetter (loose : Bool) : List Char → Bool
  | [letter, mark] => letter.isAlpha && (mark == ':' || (loose && mark == '|'))
  | _ => false

/-- Whether a drive letter in loose form stands at the start of a text, as a whole piece. -/
def startsWithDriveLetter : List Char → Bool
  | letter :: mark :: rest =>
    letter.isAlpha && (mark == ':' || mark == '|') &&
      match rest with
      | [] => true
      | c :: _ => "/\\?#".toList.contains c
  | _ => false

def isDot (piece : List Char) : Bool :=
  [".", "%2e", "%2E"].contains (String.ofList piece)

def isDoubleDot (piece : List Char) : Bool :=
  ["..", "%2e%2e", "%2e%2E", "%2E%2e", "%2E%2E", "%2e.", "%2E.", ".%2e", ".%2E"].contains
    (String.ofList piece)

def endsWithSlash (path : List Char) : Bool :=
  path.getLast? == some '/'

/-- The path up to and with its last slash. -/
def throughLastSlash (path : List Char) : List Char :=
  (path.reverse.dropWhile (· ≠ '/')).reverse

/-- The piece behind the last slash. -/
def lastPiece (path : List Char) : List Char :=
  (path.reverse.takeWhile (· ≠ '/')).reverse

/-- Takes the last piece away, except for a drive letter of a file URL. -/
def dropLastPiece (kind : SchemeKind) (path : List Char) : List Char :=
  if path = [] ∨ (kind = .file ∧ isDriveLetter false (lastPiece path)) then path
  else throughLastSlash path

/-- Whether the slash at the end of a path may go: not the first slash, nor one behind a drive
letter. -/
def lastSlashMayGo (path : List Char) : Bool :=
  path.dropLast.contains '/' && !startsWithDriveLetter (lastPiece path.dropLast ++ ['/'])

def addSlash (path : List Char) : List Char :=
  if endsWithSlash path then path else path ++ ['/']

/-- Goes up one piece. -/
def goUp (kind : SchemeKind) (path : List Char) : List Char :=
  let path := if endsWithSlash path && lastSlashMayGo path then path.dropLast else path
  dropLastPiece kind path

/-- A piece at the start of the path of a file URL: a drive letter is written with a colon, and
a slash parts it from what follows. -/
def firstFilePiece : List Char → List Char
  | [letter, '|'] => if letter.isAlpha then [letter, ':'] else [letter, '|']
  | letter :: ':' :: c :: rest =>
    if letter.isAlpha then letter :: ':' :: '/' :: c :: rest else letter :: ':' :: c :: rest
  | piece => piece

/-- Appends one piece, with a slash behind it if more pieces follow. -/
def addPiece (kind : SchemeKind) (path piece : List Char) (more : Bool) : List Char :=
  let path :=
    if kind = .file ∧ piece ≠ [] ∧ isDriveLetter false (path.drop 1) then path ++ ['/'] else path
  let encoded := escapeWith isPathByte piece
  if isDoubleDot encoded then
    let up := goUp kind path
    if more then addSlash up else up
  else if isDot encoded then addSlash path
  else
    let placed := if kind = .file ∧ path.length = 1 then firstFilePiece encoded else encoded
    path ++ placed ++ if more then ['/'] else []

def addPieces (kind : SchemeKind) (path : List Char) : List (List Char) → List Char
  | [] => path
  | [last] => addPiece kind path last false
  | piece :: rest => addPieces kind (addPiece kind path piece true) rest

def isPathEnd (c : Char) : Bool :=
  c == '?' || c == '#'

/-- Appends the pieces at the start of a text to a path. The result is the path and the rest of
the text, from its query or fragment on. -/
def extendPath (kind : SchemeKind) (path text : List Char) : List Char × List Char :=
  let isSlash (c : Char) : Bool := c == '/' || (kind.isSpecial && c == '\\')
  let pieces := (text.takeWhile fun c => !isPathEnd c).splitOnP isSlash
  let extended := addPieces kind path pieces
  (if kind = .file then '/' :: extended.dropWhile (· = '/') else extended,
    text.dropWhile fun c => !isPathEnd c)

end ScopedRouting.Url
