/-!
# Ranges of code points

A set of code points as a list of closed ranges, and its written form: ranges in hexadecimal,
separated by blanks or line ends, a range of one code point written once.
-/
namespace ScopedRouting.Unicode

abbrev Ranges := List (Nat × Nat)

namespace Ranges

def contains (ranges : Ranges) (c : Nat) : Bool :=
  ranges.any fun range => range.1 ≤ c && c ≤ range.2

/-- Value of an upper-case hexadecimal digit. -/
def digitValue (c : Char) : Nat :=
  if c.isDigit then c.toNat - 0x30 else c.toNat - 0x37

def readNumber (digits : List Char) : Nat :=
  digits.foldl (fun n c => n * 16 + digitValue c) 0

def readRange (text : List Char) : Nat × Nat :=
  let first := readNumber (text.takeWhile (· != '-'))
  match text.dropWhile (· != '-') with
  | [] => (first, first)
  | _ :: last => (first, readNumber last)

/-- The set that a written form stands for. -/
def read (text : String) : Ranges :=
  ((text.toList.splitOnP fun c => c == ' ' || c == '\n').filter (· ≠ [])).map readRange

/-- Joins a range to the ranges before it, which are in descending order. -/
def joinRange (done : Ranges) (range : Nat × Nat) : Ranges :=
  match done with
  | [] => [range]
  | last :: rest =>
    if range.1 ≤ last.2 + 1 then (last.1, max last.2 range.2) :: rest
    else range :: last :: rest

/-- The same set with its ranges in ascending order, apart from each other. -/
def normalize (ranges : Ranges) : Ranges :=
  ((ranges.mergeSort fun a b => a.1 ≤ b.1).foldl joinRange []).reverse

/-- The gaps from `start` on between ascending ranges. -/
def gaps (start limit : Nat) : Ranges → Ranges
  | [] => if start ≤ limit then [(start, limit)] else []
  | range :: rest =>
    if start < range.1 then (start, range.1 - 1) :: gaps (range.2 + 1) limit rest
    else gaps (range.2 + 1) limit rest

/-- Every code point that is not in the set. -/
def complement (ranges : Ranges) : Ranges :=
  gaps 0 0x10FFFF (normalize ranges)

def union (a b : Ranges) : Ranges :=
  normalize (a ++ b)

def intersection (a b : Ranges) : Ranges :=
  complement (complement a ++ complement b)

def difference (a b : Ranges) : Ranges :=
  complement (complement a ++ b)

def symmetricDifference (a b : Ranges) : Ranges :=
  union (difference a b) (difference b a)

/-- Whether every member is an ASCII code point. -/
def isAscii (ranges : Ranges) : Bool :=
  ranges.all (·.2 < 0x80)

end Ranges

end ScopedRouting.Unicode
