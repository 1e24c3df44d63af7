import ScopedRouting.Unicode.Named

/-!
# Regular expressions

Regular expressions over characters with anchors, as far as they decide whether a text holds a
match. Captures and greed do not change that, so neither is part of an expression. Matching works
on sets of positions, held as the bits of a number: an expression takes the positions where a
match may begin to those where it may end.
-/
namespace ScopedRouting

/-- A condition on a position, which takes no character. -/
inductive Regex.Anchor where
  | textStart
  | textEnd
  | lineStart
  | lineEnd
  | crlfLineStart
  | crlfLineEnd
  | wordBoundary
  | notWordBoundary
  | wordStart
  | wordEnd
  | wordStartHalf
  | wordEndHalf
deriving DecidableEq

/-- A regular expression. An anchor on words carries the characters that form them. -/
inductive Regex where
  | empty
  | set (members : Unicode.Ranges)
  | anchor (kind : Regex.Anchor) (word : Unicode.Ranges)
  | sequence (first second : Regex)
  | either (first second : Regex)
  | repeated (body : Regex) (least : Nat) (most : Option Nat)
deriving DecidableEq

namespace Regex

/-- Whether an anchor holds between two characters, none standing for an end of the text. -/
def Anchor.holds (anchor : Anchor) (word : Unicode.Ranges) (before after : Option Char) : Bool :=
  let isWord (c : Option Char) : Bool := c.any fun c => word.contains c.toNat
  match anchor with
  | .textStart => before.isNone
  | .textEnd => after.isNone
  | .lineStart => before.all (· == '\n')
  | .lineEnd => after.all (· == '\n')
  | .crlfLineStart =>
    before.all fun c => c == '\n' || (c == '\r' && after != some '\n')
  | .crlfLineEnd =>
    after.all fun c => c == '\r' || (c == '\n' && before != some '\r')
  | .wordBoundary => isWord before != isWord after
  | .notWordBoundary => isWord before == isWord after
  | .wordStart => !isWord before && isWord after
  | .wordEnd => isWord before && !isWord after
  | .wordStartHalf => !isWord before
  | .wordEndHalf => !isWord after

/-- The positions of `starts` whose character is in the set. -/
def charPositions (members : Unicode.Ranges) : List Char → Nat → Nat
  | [], _ => 0
  | c :: rest, starts =>
    let here := if starts % 2 = 1 && members.contains c.toNat then 1 else 0
    here + 2 * charPositions members rest (starts / 2)

/-- The positions of `starts` where an anchor holds. -/
def anchorPositions (anchor : Anchor) (word : Unicode.Ranges) (before : Option Char) :
    List Char → Nat → Nat
  | [], starts => if starts % 2 = 1 && anchor.holds word before none then 1 else 0
  | c :: rest, starts =>
    let here := if starts % 2 = 1 && anchor.holds word before (some c) then 1 else 0
    here + 2 * anchorPositions anchor word (some c) rest (starts / 2)

/-- Applies a step exactly so often. A step that changes nothing is applied once. -/
def stepTimes (step : Nat → Nat) : Nat → Nat → Nat
  | 0, positions => positions
  | count + 1, positions =>
    let next := step positions
    if next = positions then positions else stepTimes step count next

/-- The positions reached by at most so many steps. `reached` has them so far, `fresh` those
whose next step is still to come. -/
def stepUpTo (step : Nat → Nat) : Nat → (reached fresh : Nat) → Nat
  | 0, reached, _ => reached
  | count + 1, reached, fresh =>
    let next := step fresh
    let fresh := next ^^^ (next &&& reached)
    if fresh = 0 then reached else stepUpTo step count (reached ||| fresh) fresh

/-- The positions where a match can end that begins at one of the given positions. -/
def ends (text : List Char) : Regex → Nat → Nat
  | .empty, starts => starts
  | .set members, starts => 2 * charPositions members text starts
  | .anchor kind word, starts => anchorPositions kind word none text starts
  | .sequence first second, starts => ends text second (ends text first starts)
  | .either first second, starts => ends text first starts ||| ends text second starts
  | .repeated body least most, starts =>
    let enough := stepTimes (ends text body) least starts
    let more := match most with
      | some most => most - least
      | none => text.length + 1
    stepUpTo (ends text body) more enough enough

/-- Whether a match begins somewhere in the text. -/
def isMatch (regex : Regex) (text : String) : Bool :=
  ends text.toList regex (Nat.pow 2 (text.length + 1) - 1) != 0

/-- An estimate of the bytes that a compiled set takes: its ASCII part is one table, every other
range needs states of its own. -/
def setWeight (members : Unicode.Ranges) : Nat :=
  members.foldl (fun n range => n + if range.2 < 0x80 then 8 else 24) 32

/-- An estimate of the bytes that a compiled expression takes. -/
def weight : Regex → Nat
  | .empty => 32
  | .set members => setWeight members
  | .anchor _ _ => 32
  | .sequence first second => first.weight + second.weight
  | .either first second => first.weight + second.weight + 64
  | .repeated body least most =>
    match most with
    | some most => body.weight * max 1 most + 32 * (most - least)
    | none => body.weight * max 1 least + 64

/-- The most that a compiled expression may take. -/
def weightLimit : Nat := 10 * Nat.pow 2 20

end Regex

end ScopedRouting
