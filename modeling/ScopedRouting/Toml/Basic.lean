/-!
# TOML documents

The values of a TOML document and how tables grow while one is read. Numbers with a fraction and
points in time are told apart from other values but keep no content.
-/
namespace ScopedRouting

/-- How a table came to be, which decides how it may grow. -/
inductive Toml.Origin where
  /-- Written in braces: it never grows. -/
  | inline
  /-- By a dotted key: it grows by more dotted keys. -/
  | dotted
  /-- As the parent of a table with a header: it may still get a header of its own. -/
  | implied
  /-- By a header of its own. -/
  | header
deriving DecidableEq

inductive Toml where
  | string (value : String)
  | integer (value : Int)
  | float
  | bool (value : Bool)
  | dateTime
  | array (items : List Toml)
  | table (origin : Toml.Origin) (entries : List (String × Toml))
  /-- Tables under one repeated header. -/
  | tables (elements : List (List (String × Toml)))

namespace Toml

abbrev Entries := List (String × Toml)

def lookup (entries : Entries) (key : String) : Option Toml :=
  (entries.find? (·.1 = key)).map (·.2)

/-- Replaces the value of a key, or appends it. -/
def put (key : String) (value : Toml) : Entries → Entries
  | [] => [(key, value)]
  | entry :: rest =>
    if entry.1 = key then (key, value) :: rest else entry :: put key value rest

/-- Changes the table at the end of a path of keys. Missing tables on the way get the given
origin; of a repeated header the last table counts. Dotted keys do not enter a table with a header
of its own. The change sees whether its table is dotted. -/
def modifyAt (created : Origin) (change : (isDotted : Bool) → Entries → Option Entries) :
    List String → (isDotted : Bool) → Entries → Option Entries
  | [], isDotted, entries => change isDotted entries
  | key :: path, _, entries =>
    match lookup entries key with
    | none => do
      let below ← modifyAt created change path (created = .dotted) []
      return put key (.table created below) entries
    | some (.table .inline _) => none
    | some (.table origin below) =>
      if created = .dotted ∧ origin = .header then none
      else do
        let below ← modifyAt created change path (origin = .dotted) below
        return put key (.table origin below) entries
    | some (.tables elements) => do
      let last ← elements.getLast?
      let last ← modifyAt created change path false last
      return put key (.tables (elements.dropLast ++ [last])) entries
    | some _ => none

/-- Adds a new key to a table. Keys without dots belong to tables that are not dotted, and the
others to tables that are. -/
def addNew (plain : Bool) (key : String) (value : Toml) (isDotted : Bool) (entries : Entries) :
    Option Entries :=
  if isDotted = plain ∨ (lookup entries key).isSome then none
  else some (put key value entries)

/-- Adds a value under a dotted key. -/
def addDotted (path : List String) (key : String) (value : Toml) (isDotted : Bool)
    (entries : Entries) : Option Entries :=
  modifyAt .dotted (addNew path.isEmpty key value) path isDotted entries

/-- Opens the table of a header in its parent. -/
def openTable (key : String) (_ : Bool) (entries : Entries) : Option Entries :=
  match lookup entries key with
  | none => some (put key (.table .header []) entries)
  | some (.table .implied below) => some (put key (.table .header below) entries)
  | some _ => none

/-- Opens the next table of a repeated header in its parent. -/
def openNext (key : String) (_ : Bool) (entries : Entries) : Option Entries :=
  match lookup entries key with
  | none => some (put key (.tables [[]]) entries)
  | some (.tables elements) => some (put key (.tables (elements ++ [[]])) entries)
  | some _ => none

end Toml

end ScopedRouting
