import ScopedRouting.Url.Host
import ScopedRouting.Url.Location

/-!
# Reading URLs

URLs after the URL standard, as far as path and query show them: scheme, credentials, host and
port are checked and then forgotten. A text without a scheme is a reference and is read against a
base URL.
-/
namespace ScopedRouting

/-- The parts of a URL that navigation looks at. A URL that is not hierarchical has a path
without pieces and cannot be a base for other paths. -/
structure Url where
  scheme : String
  hierarchical : Bool
  path : List Char
  query : Option (List Char)
deriving DecidableEq

namespace Url

def kind (url : Url) : SchemeKind :=
  .ofScheme url.scheme

/-- Drops controls and blanks at the ends, tabs and line breaks everywhere. -/
def clean (text : String) : List Char :=
  let isControl (c : Char) : Bool := c.toNat ≤ 0x20
  let start := text.toList.dropWhile isControl
  let trimmed := (start.reverse.dropWhile isControl).reverse
  trimmed.filter fun c => c != '\t' && c != '\n' && c != '\r'

def isSchemePart (c : Char) : Bool :=
  c.isAlphanum || c == '+' || c == '-' || c == '.'

/-- Splits off a scheme in lower case, with its colon. -/
def splitScheme? (text : List Char) : Option (String × List Char) :=
  match text, text.dropWhile isSchemePart with
  | first :: _, ':' :: rest =>
    if first.isAlpha then
      some (String.ofList ((text.takeWhile isSchemePart).map Char.toLower), rest)
    else none
  | _, _ => none

/-- The query at the start of a text. The text is empty or begins with a query or fragment. -/
def readQuery (special : Bool) : List Char → Option (List Char)
  | '?' :: rest => some (escapeWith (isQueryByte special) (rest.takeWhile (· ≠ '#')))
  | _ => none

/-- The URL of a path and the text behind it. -/
def ofPath (scheme : String) (located : List Char × List Char) : Url :=
  ⟨scheme, true, located.1, readQuery (SchemeKind.ofScheme scheme).isSpecial located.2⟩

def isAuthorityEnd (special : Bool) (c : Char) : Bool :=
  c == '/' || c == '?' || c == '#' || (special && c == '\\')

/-- Takes credentials off, which reach to the last `@` of the authority. The result is none if
they leave no room for a host; its first part is whether there are any. -/
def skipCredentials? (special : Bool) (text : List Char) : Option (Bool × List Char) :=
  let authority := text.takeWhile fun c => !isAuthorityEnd special c
  if !authority.contains '@' then some (false, text)
  else
    let host := (authority.reverse.takeWhile (· ≠ '@')).reverse
    let credentials := authority.take (authority.length - host.length - 1)
    let rest := text.drop (credentials.length + 1)
    if credentials = [] ∧ rest.head?.any (isAuthorityEnd special) then none
    else some (credentials ≠ [] ∧ credentials ≠ [':'], rest)

/-- Takes a host off, which ends before a colon outside brackets or where the authority ends. -/
def takeHost (special : Bool) : (inBrackets : Bool) → List Char → List Char × List Char
  | _, [] => ([], [])
  | inBrackets, c :: rest =>
    if (c == ':' && !inBrackets) || isAuthorityEnd special c then ([], c :: rest)
    else
      let tail := takeHost special (c == '[' || (inBrackets && c != ']')) rest
      (c :: tail.1, tail.2)

/-- Takes a port off, a number that fits in 16 bits. -/
def skipPort? (text : List Char) : Option (List Char) :=
  let digits := text.takeWhile Char.isDigit
  let rest := text.dropWhile Char.isDigit
  let fits := (Address.readNumber? 10 digits).any (· < 0x10000)
  if fits && rest.head?.all fun c => "/\\?#".toList.contains c then some rest else none

/-- Takes the authority off. A special URL must have a host, and a host is necessary for
credentials and a port. -/
def skipAuthority? (special : Bool) (text : List Char) : Option (List Char) := do
  let (credentials, text) ← skipCredentials? special text
  let (host, rest) := takeHost special false text
  if host = [] ∧ (special ∨ credentials ∨ rest.head? = some ':') then none
  let _ ← readHost? special host
  match rest with
  | ':' :: port => skipPort? port
  | rest => some rest

/-- Reads the path behind an authority. A special URL always has one. -/
def pathAfterHost (kind : SchemeKind) (text : List Char) : List Char × List Char :=
  if kind.isSpecial then
    match text with
    | '/' :: rest | '\\' :: rest => extendPath kind ['/'] rest
    | rest => extendPath kind ['/'] rest
  else match text with
    | [] => ([], [])
    | c :: _ =>
      if isPathEnd c then ([], text)
      else extendPath kind (if c = '/' then [] else ['/']) text

def readAfterSlashes? (scheme : String) (text : List Char) : Option Url := do
  let kind := SchemeKind.ofScheme scheme
  return ofPath scheme (pathAfterHost kind (← skipAuthority? kind.isSpecial text))

/-- The base with the query of a reference, or its own where the reference has none. -/
def withQuery (base : Url) (text : List Char) : Url :=
  match text with
  | '?' :: _ => { base with query := readQuery base.kind.isSpecial text }
  | _ => base

def isSlash (c : Char) : Bool :=
  c == '/' || c == '\\'

/-- Reads the host of a file URL and the path behind it. A drive letter is no host, and neither
is the local one. -/
def readFileHost? (text : List Char) : Option (List Char × List Char) :=
  let isHostEnd (c : Char) : Bool := isSlash c || isPathEnd c
  let host := text.takeWhile fun c => !isHostEnd c
  let rest := text.dropWhile fun c => !isHostEnd c
  if host = [] then some (extendPath .file [] rest)
  else if isDriveLetter true host then some (extendPath .file ['/'] text)
  else (readHost? true host).map fun name =>
    if name = "localhost".toList then extendPath .file [] rest
    else pathAfterHost .file rest

/-- The drive letter that the path of a base begins with, with its slash. -/
def driveOf (base : Option Url) : List Char :=
  match base with
  | some base =>
    let piece := (base.path.drop 1).takeWhile (· ≠ '/')
    if isDriveLetter false piece then '/' :: piece else []
  | none => []

/-- Reads what follows the scheme of a file URL, or a reference to a file. -/
def readFile? (base : Option Url) (text : List Char) : Option Url :=
  match text, base with
  | a :: b :: rest, _ =>
    if isSlash a && isSlash b then (readFileHost? rest).map (ofPath "file")
    else if isSlash a then
      let drive := if startsWithDriveLetter (b :: rest) then [] else driveOf base
      some (ofPath "file" (extendPath .file drive text))
    else readFileReference? base
  | [a], _ =>
    if isSlash a then some (ofPath "file" (extendPath .file (driveOf base) text))
    else readFileReference? base
  | [], _ => readFileReference? base
where
  /-- Reads a reference that does not begin with a slash. -/
  readFileReference? : Option Url → Option Url
    | none => some (ofPath "file" (extendPath .file ['/'] text))
    | some base =>
      if text.head?.all isPathEnd then some (withQuery base text)
      else if startsWithDriveLetter text then
        some (ofPath "file" (extendPath .file ['/'] text))
      else some (ofPath "file" (extendPath .file (dropLastPiece .file base.path) text))

/-- Reads a URL with a scheme that is neither special nor for files. -/
def readOther? (scheme : String) : List Char → Option Url
  | '/' :: '/' :: rest => readAfterSlashes? scheme rest
  | '/' :: rest => some (ofPath scheme (extendPath .other ['/'] rest))
  | text =>
    some ⟨scheme, false,
      escapeWith (fun b => !isControlOrNonAscii b) (text.takeWhile fun c => !isPathEnd c),
      readQuery false (text.dropWhile fun c => !isPathEnd c)⟩

/-- Reads a reference against a base of any kind but files. -/
def readReference? (base : Url) (text : List Char) : Option Url :=
  match text with
  | [] => some base
  | a :: rest =>
    if isPathEnd a then some (withQuery base text)
    else if isSlash a then
      match rest with
      | b :: tail =>
        if isSlash b then
          if a = '/' ∧ b = '/' then readAfterSlashes? base.scheme tail
          else readAfterSlashes? base.scheme (tail.dropWhile isSlash)
        else some (ofPath base.scheme (extendPath base.kind ['/'] rest))
      | [] => some (ofPath base.scheme (extendPath base.kind ['/'] rest))
    else
      let up := dropLastPiece base.kind base.path
      some (ofPath base.scheme (extendPath base.kind (if up = [] then ['/'] else up) text))

/-- Reads a URL that has a scheme. The outer option is none for a text without one. -/
def readAbsolute? (text : List Char) : Option (Option Url) :=
  (splitScheme? text).map fun (scheme, rest) =>
    match SchemeKind.ofScheme scheme with
    | .file => readFile? none rest
    | .special => readAfterSlashes? scheme (rest.dropWhile isSlash)
    | .other => readOther? scheme rest

/-- Reads a text without a scheme against a base. A base without a hierarchy only takes
fragments. -/
def resolve? (base : Url) (text : List Char) : Option Url :=
  if text.head? = some '#' then some base
  else if !base.hierarchical then none
  else if base.kind = .file then readFile? (some base) text
  else readReference? base text

/-- Reads a URL, or a reference against a base. -/
def parse? (base text : String) : Option Url :=
  match readAbsolute? (clean text) with
  | some url => url
  | none => do
    let base ← (readAbsolute? (clean base)).join
    resolve? base (clean text)

/-- Path and query of a URL. A text that is no URL is cut at the first question mark as it
stands, its fragment left out. -/
def split (base text : String) : String × Option String :=
  match parse? base text with
  | some url => (String.ofList url.path, url.query.map String.ofList)
  | none =>
    let plain := text.toList.takeWhile (· ≠ '#')
    match plain.dropWhile (· ≠ '?') with
    | [] => (String.ofList plain, none)
    | _ :: query => (String.ofList (plain.takeWhile (· ≠ '?')), some (String.ofList query))

end Url

end ScopedRouting
