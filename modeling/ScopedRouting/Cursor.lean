import ScopedRouting.Path

/-!
# Cursors

A position among the tokens of a path that is being matched. Only taking a token moves it. A
relative cursor has been handed on by a scope that took tokens before, or starts behind them.
-/
namespace ScopedRouting

structure Cursor where
  tokens : List String
  position : Nat
  relative : Bool
deriving DecidableEq

namespace Cursor

/-- At the first of the tokens, not relative. -/
def ofTokens (tokens : List String) : Cursor :=
  ⟨tokens, 0, false⟩

def ofPath (path : Path) : Cursor :=
  ofTokens path.segments

/-- Behind tokens that count as taken, relative. -/
def resumed (tokens : List String) (taken : Nat) : Cursor :=
  ⟨tokens, min taken tokens.length, true⟩

def toRelative (cursor : Cursor) : Cursor :=
  { cursor with relative := true }

/-- The tokens that are left. -/
def rest (cursor : Cursor) : List String :=
  cursor.tokens.drop cursor.position

/-- The token some places ahead. -/
def peek (cursor : Cursor) (offset : Nat) : Option String :=
  cursor.tokens[cursor.position + offset]?

/-- Takes the current token. At the end nothing is taken and the cursor stays. -/
def shift (cursor : Cursor) : Option String × Cursor :=
  match cursor.peek 0 with
  | some token => (some token, { cursor with position := cursor.position + 1 })
  | none => (none, cursor)

def size (cursor : Cursor) : Nat :=
  cursor.tokens.length

def remaining (cursor : Cursor) : Nat :=
  cursor.size - cursor.position

def isExhausted (cursor : Cursor) : Bool :=
  cursor.remaining == 0

/-- The whole path, wherever the cursor stands. -/
def sourcePath (cursor : Cursor) : String :=
  Path.join cursor.tokens

def remainingPath (cursor : Cursor) : String :=
  Path.join cursor.rest

/-- The tokens taken since an earlier position. -/
def takenSince (cursor : Cursor) (start : Nat) : String :=
  Path.join ((cursor.tokens.take cursor.position).drop start)

end Cursor

end ScopedRouting
