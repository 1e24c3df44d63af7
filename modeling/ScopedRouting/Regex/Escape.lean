import ScopedRouting.Regex.Basic
import ScopedRouting.Text.Blank
import ScopedRouting.Unicode.CaseFold

/-!
# Escapes in regular expressions

What may follow a backslash: a character written by number, a quoted character, a class of
characters by letter or by Unicode name, or an anchor. Everything else is refused, digits
included, as there are no back references.
-/
namespace ScopedRouting.Regex

/-- The settings that are in force at a place of an expression. -/
structure Flags where
  ignoreCase : Bool := false
  multiLine : Bool := false
  dotMatchesNewline : Bool := false
  swapGreed : Bool := false
  unicode : Bool := true
  crlf : Bool := false
  ignoreBlanks : Bool := false
deriving DecidableEq

/-- What one escape or plain character stands for. `byByte` marks a two-digit number escape,
which stands for a byte where the expression is not about Unicode characters. -/
inductive Primitive where
  | literal (c : Char) (byByte : Bool)
  | set (members : Unicode.Ranges)
  | anchor (kind : Anchor)

/-- Skips blanks and comments. -/
def skipComments : (inComment : Bool) → List Char → List Char
  | _, [] => []
  | true, c :: rest => skipComments (c != '\n') rest
  | false, c :: rest =>
    if Blank.isBlank c then skipComments false rest
    else if c = '#' then skipComments true rest
    else c :: rest

/-- Skips what is no part of the expression where blanks are ignored. -/
def skip (flags : Flags) (text : List Char) : List Char :=
  if flags.ignoreBlanks then skipComments false text else text

def hexValue? (c : Char) : Option Nat :=
  if c.isDigit then some (c.toNat - 0x30)
  else if 'a' ≤ c ∧ c ≤ 'f' then some (c.toNat - 0x57)
  else if 'A' ≤ c ∧ c ≤ 'F' then some (c.toNat - 0x37)
  else none

/-- The character with this number, if there is one. -/
def character? (n : Nat) : Option Char :=
  if n < 0xD800 ∨ (0xDFFF < n ∧ n < 0x110000) then some (Char.ofNat n) else none

/-- Reads exactly so many hexadecimal digits. -/
def readHex? (flags : Flags) : Nat → Nat → List Char → Option (Nat × List Char)
  | 0, n, rest => some (n, rest)
  | _ + 1, _, [] => none
  | count + 1, n, c :: rest => do
    readHex? flags count (n * 16 + (← hexValue? c)) (skip flags rest)

/-- Takes characters up to a closing brace, and what follows it. The fuel bounds the length. -/
def readBraced? (flags : Flags) : Nat → List Char → Option (List Char × List Char)
  | 0, _ => none
  | fuel + 1, text =>
    match text with
    | [] => none
    | '}' :: rest => some ([], rest)
    | c :: rest => (readBraced? flags fuel (skip flags rest)).map fun r => (c :: r.1, r.2)

/-- Reads the number of a character, in braces or with a fixed count of digits. -/
def readCharacter? (flags : Flags) (digits : Nat) (text : List Char) :
    Option (Primitive × List Char) := do
  match skip flags text with
  | '{' :: rest =>
    let (number, rest) ← readBraced? flags (rest.length + 1) (skip flags rest)
    let values ← number.mapM hexValue?
    if values.isEmpty then none
    let c ← character? (values.foldl (fun n d => n * 16 + d) 0)
    return (.literal c false, skip flags rest)
  | text =>
    let (n, rest) ← readHex? flags digits 0 text
    return (.literal (← character? n) (digits == 2), rest)

/-- The ranges of ASCII letters, digits and underscore. -/
def asciiWord : Unicode.Ranges :=
  [(0x30, 0x39), (0x41, 0x5A), (0x5F, 0x5F), (0x61, 0x7A)]

/-- The characters that form words. -/
def wordSet (flags : Flags) : Unicode.Ranges :=
  if flags.unicode then Unicode.Ranges.normalize Unicode.wordRanges else asciiWord

def caseSet (flags : Flags) (members : Unicode.Ranges) : Unicode.Ranges :=
  if !flags.ignoreCase then members
  else if flags.unicode then members.foldCase
  else members.foldAsciiCase

/-- A set as it stands, or its complement. Without Unicode the result must be ASCII, since a
match may not end within a character. -/
def signedSet? (flags : Flags) (negated : Bool) (members : Unicode.Ranges) :
    Option Unicode.Ranges :=
  let result := if negated then members.complement else members.normalize
  if flags.unicode || result.isAscii then some result else none

/-- The class with a one-letter name. Upper case stands for the complement. -/
def letterClass? (flags : Flags) (letter : Char) : Option Unicode.Ranges := do
  let members ← match letter.toLower with
    | 'd' => some (if flags.unicode then Unicode.decimalDigits else [(0x30, 0x39)])
    | 's' => some (if flags.unicode then Unicode.blankRanges else [(9, 13), (0x20, 0x20)])
    | 'w' => some (wordSet flags)
    | _ => none
  signedSet? flags letter.isUpper members

/-- Splits a text around the first place where a mark stands. -/
def splitAround (mark : List Char) : List Char → Option (List Char × List Char)
  | [] => none
  | c :: rest =>
    if mark.isPrefixOf (c :: rest) then some ([], (c :: rest).drop mark.length)
    else (splitAround mark rest).map fun r => (c :: r.1, r.2)

/-- The set that a Unicode name stands for: alone, or as property and value between `=` or `:`,
where `!=` takes the complement. -/
def namedClass? (name : List Char) : Option (Unicode.Ranges × Bool) :=
  match splitAround ['!', '='] name, splitAround [':'] name, splitAround ['='] name with
  | some (property, value), _, _ =>
    (Unicode.valueSet? (String.ofList property) (String.ofList value)).map (·, true)
  | none, some (property, value), _ | none, none, some (property, value) =>
    (Unicode.valueSet? (String.ofList property) (String.ofList value)).map (·, false)
  | none, none, none => (Unicode.set? (String.ofList name)).map (·, false)

/-- Reads the name behind `\p` or `\P`, one letter or a name in braces. -/
def readNamedClass? (flags : Flags) (negated : Bool) (text : List Char) :
    Option (Primitive × List Char) := do
  if !flags.unicode then none
  let (name, rest) ← match skip flags text with
    | '{' :: rest => readBraced? flags (rest.length + 1) (skip flags rest)
    | '\\' :: _ | [] => none
    | c :: rest => some ([c], skip flags rest)
  let (members, unequal) ← namedClass? name
  let members ← signedSet? flags (negated != unequal) (caseSet flags members)
  return (.set members, rest)

def isMeta (c : Char) : Bool :=
  "\\.+*?()|[]\x7b\x7d^$#&-~".toList.contains c

/-- Characters that a backslash may quote: ASCII but letters, digits and angle brackets. -/
def isQuotable (c : Char) : Bool :=
  isMeta c || (c.toNat < 0x80 && !c.isAlphanum && c != '<' && c != '>')

/-- Reads the name of a word anchor in braces, which begins with a letter or a dash. Any other
brace is left for a repetition. -/
def readWordAnchor? (flags : Flags) (text : List Char) : Option (Primitive × List Char) :=
  let isNamePart (c : Char) : Bool := c.isAlpha || c == '-'
  match text with
  | '{' :: rest =>
    match skip flags rest with
    | [] => none
    | c :: tail =>
      if !isNamePart c then some (.anchor .wordBoundary, text)
      else do
        let (name, rest) ← readBraced? flags (tail.length + 2) (c :: tail)
        let kind ← match String.ofList name with
          | "start" => some Anchor.wordStart
          | "end" => some Anchor.wordEnd
          | "start-half" => some Anchor.wordStartHalf
          | "end-half" => some Anchor.wordEndHalf
          | _ => none
        return (.anchor kind, rest)
  | _ => some (.anchor .wordBoundary, text)

/-- Reads what follows a backslash. -/
def readEscape? (flags : Flags) : List Char → Option (Primitive × List Char)
  | [] => none
  | c :: rest =>
    match c with
    | 'x' => readCharacter? flags 2 rest
    | 'u' => readCharacter? flags 4 rest
    | 'U' => readCharacter? flags 8 rest
    | 'p' => readNamedClass? flags false rest
    | 'P' => readNamedClass? flags true rest
    | 'd' | 'D' | 's' | 'S' | 'w' | 'W' =>
      (letterClass? flags c).map fun members => (.set members, rest)
    | 'a' => some (.literal '\x07' false, rest)
    | 'f' => some (.literal '\x0c' false, rest)
    | 't' => some (.literal '\t' false, rest)
    | 'n' => some (.literal '\n' false, rest)
    | 'r' => some (.literal '\r' false, rest)
    | 'v' => some (.literal '\x0b' false, rest)
    | 'A' => some (.anchor .textStart, rest)
    | 'z' => some (.anchor .textEnd, rest)
    | 'b' => readWordAnchor? flags rest
    | 'B' => some (.anchor .notWordBoundary, rest)
    | '<' => some (.anchor .wordStart, rest)
    | '>' => some (.anchor .wordEnd, rest)
    | c => if isQuotable c then some (.literal c false, rest) else none

end ScopedRouting.Regex
