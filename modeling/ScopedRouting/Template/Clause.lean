import ScopedRouting.Template.Args

/-!
# Tokens of templates

A token of a template is the relative marker `~`, the wildcard `*`, a dynamic segment behind a
colon, or literal text. A dynamic segment is a name, optional arguments in angle brackets and an
optional default behind a question mark. Arguments reach to the last closing bracket.
-/
namespace ScopedRouting.Template

/-- What happens where a dynamic segment has no token. -/
inductive Presence where
  | required
  | optional
  /-- Optional, with a default that is still to be converted. -/
  | defaulted (literal : String)
deriving DecidableEq

/-- A dynamic segment as it is written. The name still has its indicator, if there is one. -/
structure Clause where
  name : String
  args : Args
  presence : Presence
deriving DecidableEq

/-- Splits a text around the last place of a character. -/
def splitLast (mark : Char) (text : List Char) : Option (List Char × List Char) :=
  let after := (text.reverse.takeWhile (· ≠ mark)).reverse
  match text.reverse.dropWhile (· ≠ mark) with
  | [] => none
  | _ :: before => some (before.reverse, after)

/-- Reads what follows the arguments, or the name where there are none. -/
def Presence.read? : List Char → Option Presence
  | [] => some .required
  | ['?'] => some .optional
  | '?' :: literal => some (.defaulted (String.ofList literal))
  | _ => none

/-- Reads a dynamic segment without its colon. -/
def Clause.parse (clause : String) : Except Error Clause :=
  let chars := clause.toList
  let isNamePart (c : Char) : Bool := c != '<' && c != '?'
  let name := chars.takeWhile isNamePart
  let finish (args : Args) (rest : List Char) : Except Error Clause :=
    match Presence.read? rest with
    | some presence => .ok ⟨String.ofList name, args, presence⟩
    | none => .error (.trailingCharacters clause)
  if name.contains '>' then .error (.unbalancedArgs clause)
  else match chars.dropWhile isNamePart with
    | '<' :: inner =>
      match splitLast '>' inner with
      | none => .error (.unterminatedArgs clause)
      | some (args, rest) => do
        finish (← Args.parse (String.ofList args)) rest
    | rest => finish .absent rest

inductive Token where
  | relative
  | wildcard
  | value (clause : Clause)
  | literal (text : String)
deriving DecidableEq

/-- Reads one token. Markers count only as whole tokens. -/
def Token.parse (text : String) : Except Error Token :=
  match text.toList with
  | ['~'] => .ok .relative
  | ['*'] => .ok .wildcard
  | ':' :: clause => (Clause.parse (String.ofList clause)).map .value
  | _ => .ok (.literal text)

end ScopedRouting.Template
