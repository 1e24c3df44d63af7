import ScopedRouting.Regex.Escape

/-!
# Bracketed character classes

A class lists characters, ranges, named classes and nested classes, and combines such lists by
intersection, difference and symmetric difference, from left to right and with equal rank. A
bracket that stands first is a member, and dashes that stand first are members too.
-/
namespace ScopedRouting.Regex

/-- A set of characters and how deeply its notation is nested. -/
structure ClassPart where
  members : Unicode.Ranges
  depth : Nat

inductive ClassOperation where
  | intersection
  | difference
  | symmetricDifference

/-- A class that is being read: its negation, the parts of the class around it that stand before
it, and an operation that waits for its right side. -/
structure OpenClass where
  negated : Bool
  before : List ClassPart
  pending : Option (ClassOperation × ClassPart)

/-- The parts between two operations as one. Parts are listed last first. -/
def unionPart (parts : List ClassPart) : ClassPart :=
  match parts with
  | [] => ⟨[], 0⟩
  | [part] => part
  | parts =>
    ⟨Unicode.Ranges.normalize (parts.flatMap (·.members)),
      1 + (parts.map (·.depth)).foldl max 0⟩

/-- Carries out the operation that waits for `right`. Both sides have their cases joined before. -/
def combinePart (flags : Flags) (pending : Option (ClassOperation × ClassPart))
    (right : ClassPart) : ClassPart :=
  match pending with
  | none => right
  | some (operation, left) =>
    let a := caseSet flags left.members
    let b := caseSet flags right.members
    let members := match operation with
      | .intersection => a.intersection b
      | .difference => a.difference b
      | .symmetricDifference => a.symmetricDifference b
    ⟨members, 1 + max left.depth right.depth⟩

/-- The ranges of a class name between `[:` and `:]`. -/
def asciiClass? : String → Option Unicode.Ranges
  | "alnum" => some [(0x30, 0x39), (0x41, 0x5A), (0x61, 0x7A)]
  | "alpha" => some [(0x41, 0x5A), (0x61, 0x7A)]
  | "ascii" => some [(0, 0x7F)]
  | "blank" => some [(9, 9), (0x20, 0x20)]
  | "cntrl" => some [(0, 0x1F), (0x7F, 0x7F)]
  | "digit" => some [(0x30, 0x39)]
  | "graph" => some [(0x21, 0x7E)]
  | "lower" => some [(0x61, 0x7A)]
  | "print" => some [(0x20, 0x7E)]
  | "punct" => some [(0x21, 0x2F), (0x3A, 0x40), (0x5B, 0x60), (0x7B, 0x7E)]
  | "space" => some [(9, 13), (0x20, 0x20)]
  | "upper" => some [(0x41, 0x5A)]
  | "word" => some asciiWord
  | "xdigit" => some [(0x30, 0x39), (0x41, 0x46), (0x61, 0x66)]
  | _ => none

/-- Reads `[:name:]` or `[:^name:]` behind its first bracket. Text that only begins like that is
a nested class. -/
def readAsciiClass? (flags : Flags) (text : List Char) : Option (ClassPart × List Char) := do
  let (negated, text) ← match text with
    | ':' :: '^' :: rest => some (true, rest)
    | ':' :: rest => some (false, rest)
    | _ => none
  let name := text.takeWhile (· ≠ ':')
  match text.dropWhile (· ≠ ':') with
  | ':' :: ']' :: rest =>
    let members := caseSet flags (← asciiClass? (String.ofList name))
    return (⟨if negated then members.complement else members, 0⟩, rest)
  | _ => none

/-- Reads one member that is no class: an escape or a character as it stands. -/
def readMember? (flags : Flags) : List Char → Option (Primitive × List Char)
  | [] => none
  | '\\' :: rest => readEscape? flags rest
  | c :: rest => some (.literal c false, rest)

/-- A character as a member. Without Unicode it must be ASCII. -/
def memberCode? (flags : Flags) : Primitive → Option Nat
  | .literal c _ => if flags.unicode || c.toNat < 0x80 then some c.toNat else none
  | _ => none

/-- Reads a member or a range of two characters. A dash before a bracket or another dash does not
make a range. -/
def readRange? (flags : Flags) (text : List Char) : Option (ClassPart × List Char) := do
  let (first, rest) ← readMember? flags text
  let rest := skip flags rest
  let isRange := match rest with
    | '-' :: tail =>
      match skip flags tail with
      | ']' :: _ | '-' :: _ => false
      | _ => true
    | _ => false
  if rest = [] then none
  else if isRange then
    let (last, rest) ← readMember? flags (skip flags (rest.drop 1))
    let low ← memberCode? flags first
    let high ← memberCode? flags last
    if low ≤ high then some (⟨[(low, high)], 0⟩, rest) else none
  else match first with
    | .literal _ _ => return (⟨[(← memberCode? flags first, ← memberCode? flags first)], 0⟩, rest)
    | .set members => return (⟨members, 0⟩, rest)
    | .anchor _ => none

/-- Reads dashes at the start of a class. -/
def readDashes (flags : Flags) : Nat → List ClassPart → List Char → List ClassPart × List Char
  | fuel + 1, parts, '-' :: rest =>
    readDashes flags fuel (⟨[(0x2D, 0x2D)], 0⟩ :: parts) (skip flags rest)
  | _, parts, rest => (parts, rest)

/-- Reads the start of a class behind its bracket: its negation, and members that only count as
such in first place. -/
def readOpening (flags : Flags) (text : List Char) : Bool × List ClassPart × List Char :=
  let text := skip flags text
  let (negated, text) := match text with
    | '^' :: rest => (true, skip flags rest)
    | _ => (false, text)
  let (parts, text) := readDashes flags text.length [] text
  match parts, text with
  | [], ']' :: rest => (negated, [⟨[(0x5D, 0x5D)], 0⟩], skip flags rest)
  | _, _ => (negated, parts, text)

/-- The operation whose sign stands at the start of a text. -/
def readOperation? : List Char → Option (ClassOperation × List Char)
  | '&' :: '&' :: rest => some (.intersection, rest)
  | '-' :: '-' :: rest => some (.difference, rest)
  | '~' :: '~' :: rest => some (.symmetricDifference, rest)
  | _ => none

/-- Reads on in a class up to the bracket that closes the outermost one. `inner` is the class
being read, `around` the classes it stands in, `parts` the members since the last operation. -/
def readClassBody? (flags : Flags) :
    Nat → (inner : OpenClass) → (around : List OpenClass) → List ClassPart → List Char →
      Option (ClassPart × List Char)
  | 0, _, _, _, _ => none
  | fuel + 1, inner, around, parts, text =>
    match skip flags text with
    | [] => none
    | '[' :: rest =>
      match readAsciiClass? flags rest with
      | some (part, rest) => readClassBody? flags fuel inner around (part :: parts) rest
      | none =>
        let (negated, first, rest) := readOpening flags rest
        readClassBody? flags fuel ⟨negated, parts, none⟩ (inner :: around) first rest
    | ']' :: rest => do
      let whole := combinePart flags inner.pending (unionPart parts)
      let members ← signedSet? flags inner.negated (caseSet flags whole.members)
      let part : ClassPart := ⟨members, whole.depth + 1⟩
      match around with
      | [] => some (part, rest)
      | next :: around => readClassBody? flags fuel next around (part :: inner.before) rest
    | text =>
      match readOperation? text with
      | some (operation, rest) =>
        let left := combinePart flags inner.pending (unionPart parts)
        readClassBody? flags fuel { inner with pending := some (operation, left) } around []
          rest
      | none => do
        let (part, rest) ← readRange? flags text
        readClassBody? flags fuel inner around (part :: parts) rest

/-- Reads a class behind its opening bracket. -/
def readClass? (flags : Flags) (text : List Char) : Option (ClassPart × List Char) :=
  let (negated, first, rest) := readOpening flags text
  readClassBody? flags (text.length + 1) ⟨negated, [], none⟩ [] first rest

end ScopedRouting.Regex
