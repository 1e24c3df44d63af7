import ScopedRouting.Regex.CharClass

/-!
# Reading regular expressions

The notation knows alternatives, groups, repetitions, classes, anchors and settings, but neither
back references nor looking around. It is read from left to right with a stack of open groups.
Settings hold from where they stand to the end of their group. Notation that is nested more than
250 levels deep, or an expression beyond the weight limit, is refused.
-/
namespace ScopedRouting.Regex

/-- A part of an expression with the depth of its notation. Settings and the empty part cannot be
repeated. -/
structure Node where
  regex : Regex
  depth : Nat
  repeatable : Bool

/-- A group that is being read: its finished alternatives and the parts of the current one, both
last first, and the settings that hold again behind it. -/
structure OpenGroup where
  branches : List Node
  parts : List Node
  outer : Flags

/-- What has been read so far. -/
structure ReaderState where
  inner : OpenGroup
  around : List OpenGroup
  flags : Flags
  names : List String

def OpenGroup.start (outer : Flags) : OpenGroup :=
  ⟨[], [], outer⟩

def OpenGroup.push (group : OpenGroup) (node : Node) : OpenGroup :=
  { group with parts := node :: group.parts }

def maxDepth (nodes : List Node) : Nat :=
  (nodes.map (·.depth)).foldl max 0

/-- Parts in a row as one. Parts are listed last first. -/
def sequenceNode : List Node → Node
  | [] => ⟨.empty, 0, false⟩
  | [node] => node
  | nodes => ⟨(nodes.map (·.regex)).foldl (fun after node => .sequence node after) .empty,
      1 + maxDepth nodes, true⟩

/-- The alternatives of a group as one. -/
def OpenGroup.node (group : OpenGroup) : Node :=
  let last := sequenceNode group.parts
  match group.branches with
  | [] => last
  | branches => ⟨(branches.map (·.regex)).foldl (fun after node => .either node after) last.regex,
      1 + maxDepth (last :: branches), true⟩

def ReaderState.push (state : ReaderState) (regex : Regex) (depth : Nat) : ReaderState :=
  { state with inner := state.inner.push ⟨regex, depth, true⟩ }

/-- Takes the last part off, to be repeated. -/
def ReaderState.takeLast? (state : ReaderState) : Option (Node × ReaderState) :=
  match state.inner.parts with
  | node :: rest =>
    if node.repeatable then
      some (node, { state with inner := { state.inner with parts := rest } })
    else none
  | [] => none

def ReaderState.repeatLast? (state : ReaderState) (least : Nat) (most : Option Nat) :
    Option ReaderState := do
  let (node, state) ← state.takeLast?
  return state.push (.repeated node.regex least most) (node.depth + 1)

/-- Skips the mark that turns greed around. -/
def skipLazy : List Char → List Char
  | '?' :: rest => rest
  | rest => rest

/-- Reads a number with blanks around it. It must fit in 32 bits. -/
def readCount (text : List Char) : Option Nat × List Char :=
  let text := Blank.trimStart text
  let digits := text.takeWhile Char.isDigit
  let n := digits.foldl (fun n c => n * 10 + (c.toNat - 0x30)) 0
  (if digits = [] ∨ Nat.pow 2 32 ≤ n then none else some n,
    Blank.trimStart (text.dropWhile Char.isDigit))

/-- Reads the counts of a repetition behind its brace. -/
def readCounts? (flags : Flags) (text : List Char) :
    Option (Nat × Option Nat × List Char) := do
  let (least, rest) := readCount (skip flags text)
  let least ← least
  let (most, rest) ← match rest with
    | ',' :: rest =>
      match skip flags rest with
      | '}' :: rest => some (none, '}' :: rest)
      | rest =>
        let (most, rest) := readCount rest
        most.map fun most => (some most, rest)
    | rest => some (some least, rest)
  match rest with
  | '}' :: rest =>
    if most.all (least ≤ ·) then some (least, most, skipLazy (skip flags rest)) else none
  | _ => none

/-- Reads letters of settings up to the character that ends them. Each letter may stand once, and
a dash must not stand last. -/
def readFlags? (seen : List Char) : List Char → Option (List Char × Char × List Char)
  | [] => none
  | c :: rest =>
    if c = ':' ∨ c = ')' then
      if seen.head? = some '-' then none else some (seen.reverse, c, rest)
    else if "-imsUuRx".toList.contains c && !seen.contains c then readFlags? (c :: seen) rest
    else none

def Flags.set (flags : Flags) (on : Bool) : Char → Flags
  | 'i' => { flags with ignoreCase := on }
  | 'm' => { flags with multiLine := on }
  | 's' => { flags with dotMatchesNewline := on }
  | 'U' => { flags with swapGreed := on }
  | 'u' => { flags with unicode := on }
  | 'R' => { flags with crlf := on }
  | _ => { flags with ignoreBlanks := on }

/-- Applies letters of settings, those behind a dash to switch off. -/
def Flags.apply (flags : Flags) (letters : List Char) : Flags :=
  let on := (letters.takeWhile (· ≠ '-')).foldl (fun f c => f.set true c) flags
  ((letters.dropWhile (· ≠ '-')).drop 1).foldl (fun f c => f.set false c) on

/-- Whether a name may be that of a group: a letter or underscore, then letters, digits,
underscores, dots and square brackets. -/
def isGroupName : List Char → Bool
  | [] => false
  | first :: rest =>
    (first == '_' || Unicode.alphabeticRanges.contains first.toNat) &&
      rest.all fun c =>
        c == '_' || c == '.' || c == '[' || c == ']' ||
          Unicode.alphanumericRanges.contains c.toNat

/-- Opens a group in which the given settings hold. -/
def ReaderState.openGroup (state : ReaderState) (flags : Flags) : ReaderState :=
  { state with
    inner := .start state.flags, around := state.inner :: state.around, flags := flags }

/-- Reads the name of a group behind its angle bracket. No two groups share a name. -/
def readGroupName? (state : ReaderState) (text : List Char) :
    Option (ReaderState × List Char) :=
  let name := text.takeWhile (· ≠ '>')
  match text.dropWhile (· ≠ '>') with
  | [] => none
  | _ :: rest =>
    if isGroupName name && !state.names.contains (String.ofList name) then
      some ({ state with names := String.ofList name :: state.names }.openGroup state.flags, rest)
    else none

/-- Reads what follows an opening parenthesis: a group, or settings for the rest of this one. -/
def readGroup? (state : ReaderState) (text : List Char) : Option (ReaderState × List Char) :=
  match skip state.flags text with
  | '?' :: '=' :: _ | '?' :: '!' :: _ | '?' :: '<' :: '=' :: _ | '?' :: '<' :: '!' :: _ => none
  | '?' :: 'P' :: '<' :: rest | '?' :: '<' :: rest => readGroupName? state rest
  | '?' :: rest => do
    let (letters, stop, rest) ← readFlags? [] rest
    let flags := state.flags.apply letters
    if stop = ':' then some (state.openGroup flags, rest)
    else if letters = [] then none
    else some ({ state with
      flags := flags, inner := state.inner.push ⟨.empty, 0, false⟩ }, rest)
  | rest => some (state.openGroup state.flags, rest)

def ReaderState.closeGroup? (state : ReaderState) : Option ReaderState :=
  match state.around with
  | [] => none
  | outer :: around =>
    let node := state.inner.node
    some { state with
      inner := outer.push ⟨node.regex, node.depth + 1, true⟩, around := around,
      flags := state.inner.outer }

def ReaderState.startBranch (state : ReaderState) : ReaderState :=
  { state with inner := { state.inner with
    branches := sequenceNode state.inner.parts :: state.inner.branches, parts := [] } }

/-- The expression of a character. Outside Unicode, a byte beyond ASCII is none. -/
def literal? (flags : Flags) (c : Char) (byByte : Bool) : Option Regex :=
  if !flags.unicode && byByte && 0x80 ≤ c.toNat then none
  else some (.set (caseSet flags [(c.toNat, c.toNat)]))

def primitive? (flags : Flags) : Primitive → Option Regex
  | .literal c byByte => literal? flags c byByte
  | .set members => some (.set members)
  | .anchor kind => some (.anchor kind (wordSet flags))

/-- The characters that a dot stands for. It is for Unicode only. -/
def dot? (flags : Flags) : Option Regex :=
  if !flags.unicode then none
  else if flags.dotMatchesNewline then some (.set [(0, 0x10FFFF)])
  else if flags.crlf then some (.set [(0, 9), (11, 12), (14, 0x10FFFF)])
  else some (.set [(0, 9), (11, 0x10FFFF)])

def startAnchor (flags : Flags) : Anchor :=
  if !flags.multiLine then .textStart else if flags.crlf then .crlfLineStart else .lineStart

def endAnchor (flags : Flags) : Anchor :=
  if !flags.multiLine then .textEnd else if flags.crlf then .crlfLineEnd else .lineEnd

/-- Reads one part of the notation. -/
def readPart? (state : ReaderState) (c : Char) (rest : List Char) :
    Option (ReaderState × List Char) :=
  match c with
  | '(' => readGroup? state rest
  | ')' => state.closeGroup?.map (·, rest)
  | '|' => some (state.startBranch, rest)
  | '[' => (readClass? state.flags rest).map fun (part, rest) =>
      (state.push (.set part.members) part.depth, rest)
  | '?' => (state.repeatLast? 0 (some 1)).map (·, skipLazy rest)
  | '*' => (state.repeatLast? 0 none).map (·, skipLazy rest)
  | '+' => (state.repeatLast? 1 none).map (·, skipLazy rest)
  | '{' => do
    let (least, most, rest) ← readCounts? state.flags rest
    return (← state.repeatLast? least most, rest)
  | '.' => (dot? state.flags).map fun dot => (state.push dot 0, rest)
  | '^' => some (state.push (.anchor (startAnchor state.flags) []) 0, rest)
  | '$' => some (state.push (.anchor (endAnchor state.flags) []) 0, rest)
  | '\\' => do
    let (primitive, rest) ← readEscape? state.flags rest
    return (state.push (← primitive? state.flags primitive) 0, rest)
  | c => (literal? state.flags c false).map fun regex => (state.push regex 0, rest)

/-- Reads parts to the end of the notation. Every part takes a character, so fuel above the
length is enough. -/
def readParts? : Nat → ReaderState → List Char → Option ReaderState
  | 0, _, _ => none
  | fuel + 1, state, text =>
    match skip state.flags text with
    | [] => some state
    | c :: rest => do
      let (state, rest) ← readPart? state c rest
      readParts? fuel state rest

def nestLimit : Nat := 250

/-- Reads a regular expression, none for text that is no such notation. -/
def parse? (text : String) : Option Regex := do
  let state ← readParts? (text.length + 1) ⟨.start {}, [], {}, []⟩ text.toList
  let node := state.inner.node
  if state.around.isEmpty && node.depth ≤ nestLimit && node.regex.weight ≤ weightLimit then
    some node.regex
  else none

end ScopedRouting.Regex
