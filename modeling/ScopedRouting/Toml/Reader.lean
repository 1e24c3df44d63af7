import ScopedRouting.Toml.Scalar

/-!
# Reading TOML

The whole notation of TOML 1.0: comments, dotted and quoted keys, headers, four kinds of strings,
numbers, times, arrays and inline tables. Arrays and inline tables may stand in each other less
than 80 deep, and a dotted key has fewer parts than that.
-/
namespace ScopedRouting.Toml

def nestLimit : Nat := 80

def isTab (c : Char) : Bool :=
  c == ' ' || c == '\t'

def skipTabs (text : List Char) : List Char :=
  text.dropWhile isTab

/-- Characters of comments: no control but the tab. -/
def isCommentChar (c : Char) : Bool :=
  c == '\t' || (0x20 ≤ c.toNat && c.toNat != 0x7F)

/-- Skips blanks, line ends and comments. -/
def skipLines? : (inComment : Bool) → List Char → Option (List Char)
  | _, [] => some []
  | _, '\n' :: rest => skipLines? false rest
  | _, '\r' :: '\n' :: rest => skipLines? false rest
  | true, c :: rest => if isCommentChar c then skipLines? true rest else none
  | false, c :: rest =>
    if isTab c then skipLines? false rest
    else if c = '#' then skipLines? true rest
    else some (c :: rest)

/-- Ends a line: blanks, an optional comment, then a line end or the end of the document. -/
def endLine? (text : List Char) : Option (List Char) :=
  let rest := match skipTabs text with
    | '#' :: comment => comment.dropWhile isCommentChar
    | rest => rest
  match rest with
  | [] => some []
  | '\n' :: rest => some rest
  | '\r' :: '\n' :: rest => some rest
  | _ => none

/-- Reads the number of a character with so many hexadecimal digits. -/
def readCharacter? (width : Nat) (text : List Char) : Option (Char × List Char) :=
  let digits := text.take width
  let n := number 16 digits
  if digits.length = width ∧ digits.all (isDigitOf 16) ∧
      (n < 0xD800 ∨ (0xDFFF < n ∧ n < 0x110000)) then
    some (Char.ofNat n, text.drop width)
  else none

/-- Reads what follows a backslash. -/
def readEscape? : List Char → Option (Char × List Char)
  | 'b' :: rest => some ('\x08', rest)
  | 't' :: rest => some ('\t', rest)
  | 'n' :: rest => some ('\n', rest)
  | 'f' :: rest => some ('\x0c', rest)
  | 'r' :: rest => some ('\r', rest)
  | '"' :: rest => some ('"', rest)
  | '\\' :: rest => some ('\\', rest)
  | 'u' :: rest => readCharacter? 4 rest
  | 'U' :: rest => readCharacter? 8 rest
  | _ => none

/-- Reads a quoted string of one line behind its quote. With double quotes it has escapes. -/
def readLine? (quote : Char) : Nat → List Char → Option (List Char × List Char)
  | 0, _ => none
  | fuel + 1, text =>
    match text with
    | [] => none
    | c :: rest =>
      if c = quote then some ([], rest)
      else do
        let (c, rest) ← if c = '\\' ∧ quote = '"' then readEscape? rest
          else if isCommentChar c then some (c, rest) else none
        let (tail, rest) ← readLine? quote fuel rest
        return (c :: tail, rest)

/-- Skips blanks and line ends behind a backslash at the end of a line. -/
def skipFold : List Char → List Char
  | '\r' :: '\n' :: rest => skipFold rest
  | c :: rest => if isTab c || c == '\n' then skipFold rest else c :: rest
  | [] => []

/-- Whether a text begins with blanks and a line end. -/
def startsWithLineEnd (text : List Char) : Bool :=
  match skipTabs text with
  | '\n' :: _ => true
  | '\r' :: '\n' :: _ => true
  | _ => false

/-- Reads a quoted string of many lines behind its three quotes. Up to two quotes may stand
directly before the three that close it. -/
def readBlock? (quote : Char) : Nat → List Char → Option (List Char × List Char)
  | 0, _ => none
  | fuel + 1, text =>
    match text with
    | [] => none
    | '\r' :: '\n' :: rest =>
      (readBlock? quote fuel rest).map fun r => ('\n' :: r.1, r.2)
    | c :: rest =>
      if c = quote then
        let run := (text.takeWhile (· = quote)).length
        let rest := text.dropWhile (· = quote)
        if 5 < run then none
        else if 3 ≤ run then some (List.replicate (run - 3) quote, rest)
        else (readBlock? quote fuel rest).map fun r => (List.replicate run quote ++ r.1, r.2)
      else if c = '\\' ∧ quote = '"' then
        if startsWithLineEnd rest then readBlock? quote fuel (skipFold rest)
        else do
          let (c, rest) ← readEscape? rest
          let (tail, rest) ← readBlock? quote fuel rest
          return (c :: tail, rest)
      else if isCommentChar c || c == '\n' then
        (readBlock? quote fuel rest).map fun r => (c :: r.1, r.2)
      else none

/-- Drops a line end at the start of a block. -/
def dropLineEnd : List Char → List Char
  | '\n' :: rest => rest
  | '\r' :: '\n' :: rest => rest
  | text => text

/-- Reads a string of any kind behind its first quote. -/
def readString? (quote : Char) (text : List Char) : Option (String × List Char) := do
  let fuel := text.length + 1
  let (content, rest) ← match text with
    | a :: b :: rest =>
      if a = quote ∧ b = quote then readBlock? quote fuel (dropLineEnd rest)
      else readLine? quote fuel text
    | _ => readLine? quote fuel text
  return (String.ofList content, rest)

def isBareKeyChar (c : Char) : Bool :=
  c.isAlphanum || c == '_' || c == '-'

/-- Reads one part of a key. -/
def readKeyPart? (text : List Char) : Option (String × List Char) :=
  match text with
  | '"' :: rest | '\x27' :: rest =>
    (readLine? (text.headD '"') (rest.length + 1) rest).map fun r => (String.ofList r.1, r.2)
  | _ =>
    let name := text.takeWhile isBareKeyChar
    if name = [] then none else some (String.ofList name, text.dropWhile isBareKeyChar)

/-- Reads a key with dots between its parts and blanks around them. -/
def readKey? : Nat → List Char → Option (List String × List Char)
  | 0, _ => none
  | fuel + 1, text => do
    let (part, rest) ← readKeyPart? (skipTabs text)
    match skipTabs rest with
    | '.' :: rest =>
      let (parts, rest) ← readKey? fuel rest
      return (part :: parts, rest)
    | rest => return ([part], rest)

/-- Splits a key into the path to its table and its last part. -/
def splitKey? (parts : List String) : Option (List String × String) := do
  if nestLimit ≤ parts.length then none
  return (parts.dropLast, ← parts.getLast?)

mutual

/-- Reads a value that stands `depth` deep in others. -/
def readValue? : (fuel depth : Nat) → List Char → Option (Toml × List Char)
  | 0, _, _ => none
  | fuel + 1, depth, text =>
    match text with
    | '"' :: rest => (readString? '"' rest).map fun r => (.string r.1, r.2)
    | '\x27' :: rest => (readString? '\x27' rest).map fun r => (.string r.1, r.2)
    | '[' :: rest =>
      if nestLimit ≤ depth + 1 then none
      else (readItems? fuel (depth + 1) rest).map fun r => (.array r.1, r.2)
    | '{' :: rest =>
      if nestLimit ≤ depth + 1 then none
      else match skipTabs rest with
        | '}' :: rest => some (.table .inline [], rest)
        | rest => (readPairs? fuel (depth + 1) [] rest).map fun r => (.table .inline r.1, r.2)
    | text => readScalar? text

/-- Reads the items of an array up to its end. A comma may stand behind the last. -/
def readItems? : (fuel depth : Nat) → List Char → Option (List Toml × List Char)
  | 0, _, _ => none
  | fuel + 1, depth, text => do
    match ← skipLines? false text with
    | ']' :: rest => some ([], rest)
    | text =>
      let (item, rest) ← readValue? fuel depth text
      match ← skipLines? false rest with
      | ',' :: rest =>
        let (items, rest) ← readItems? fuel depth rest
        return (item :: items, rest)
      | ']' :: rest => return ([item], rest)
      | _ => none

/-- Reads the pairs of an inline table up to its end. -/
def readPairs? : (fuel depth : Nat) → Entries → List Char → Option (Entries × List Char)
  | 0, _, _, _ => none
  | fuel + 1, depth, entries, text => do
    let (parts, rest) ← readKey? (text.length + 1) text
    let (path, key) ← splitKey? parts
    match rest with
    | '=' :: rest =>
      let (value, rest) ← readValue? fuel depth (skipTabs rest)
      let entries ← addDotted path key value false entries
      match skipTabs rest with
      | ',' :: rest => readPairs? fuel depth entries rest
      | '}' :: rest => return (entries, rest)
      | _ => none
    | _ => none

end

/-- A document that is being read: its tables and the path of the last header. -/
structure Draft where
  root : Entries
  header : List String

/-- Reads a header behind its bracket. -/
def readHeader? (draft : Draft) (text : List Char) : Option (Draft × List Char) := do
  let (repeated, text) := match text with
    | '[' :: rest => (true, rest)
    | _ => (false, text)
  let (parts, rest) ← readKey? (text.length + 1) text
  let (path, key) ← splitKey? parts
  let rest ← match repeated, rest with
    | true, ']' :: ']' :: rest => some rest
    | false, ']' :: rest => some rest
    | _, _ => none
  let change := if repeated then openNext key else openTable key
  return (⟨← modifyAt .implied change path false draft.root, parts⟩, rest)

/-- Reads a key and its value. -/
def readPair? (draft : Draft) (text : List Char) : Option (Draft × List Char) := do
  let (parts, rest) ← readKey? (text.length + 1) text
  let (path, key) ← splitKey? parts
  match rest with
  | '=' :: rest =>
    let (value, rest) ← readValue? (rest.length + 1) 0 (skipTabs rest)
    let root ← modifyAt .implied (addDotted path key value) draft.header false draft.root
    return (⟨root, draft.header⟩, rest)
  | _ => none

/-- Reads lines to the end of the document. -/
def readDocument? : Nat → Draft → List Char → Option Entries
  | 0, _, _ => none
  | fuel + 1, draft, text => do
    match ← skipLines? false text with
    | [] => some draft.root
    | '[' :: rest =>
      let (draft, rest) ← readHeader? draft rest
      readDocument? fuel draft (← endLine? rest)
    | text =>
      let (draft, rest) ← readPair? draft text
      readDocument? fuel draft (← endLine? rest)

/-- Drops a byte order mark. -/
def dropMark : List Char → List Char
  | '\uFEFF' :: rest => rest
  | text => text

/-- The entries of a document, none for text that is no TOML. -/
def parse? (text : String) : Option Entries :=
  readDocument? (text.length + 1) ⟨[], []⟩ (dropMark text.toList)

end ScopedRouting.Toml
