import ScopedRouting.Unicode.Category
import ScopedRouting.Unicode.DecimalDigit
import ScopedRouting.Unicode.Property
import ScopedRouting.Unicode.Script

/-!
# Sets of code points by name

A set is named by a property, a general category or a script, alone or as a pair of property and
value. Names are compared in a normal form without case, blanks, dashes, underscores and a
leading `is`. Ages and the segmentation properties are not among the names.
-/
namespace ScopedRouting.Unicode

def isNameSeparator (c : Char) : Bool :=
  c == ' ' || c == '_' || c == '-'

/-- Normal form of a name. The short name `isc` keeps its first letters, as it would otherwise
read as the category of one letter. -/
def normalName (name : String) : String :=
  let tail (cs : List Char) :=
    (cs.filter fun c => !isNameSeparator c && c.toNat < 0x80).map Char.toLower
  match name.toList with
  | i :: s :: rest =>
    if i.toLower = 'i' ∧ s.toLower = 's' then
      if tail rest = ['c'] then "isc" else String.ofList (tail rest)
    else String.ofList (tail name.toList)
  | short => String.ofList (tail short)

/-- Code points of one two-letter category. -/
def categoryRanges (short : String) : Ranges :=
  if short = "nd" then decimalDigits
  else match categories.find? (·.names.contains short) with
    | some category => Ranges.read category.ranges
    | none => []

def categoriesRanges (shorts : List String) : Ranges :=
  shorts.flatMap categoryRanges

/-- The set of a general category, a union of categories, or one of the sets that are named
beside them. The argument is in normal form. -/
def category? (name : String) : Option Ranges :=
  if name = "any" then some [(0, 0x10FFFF)]
  else if name = "ascii" then some [(0, 0x7F)]
  else if name = "assigned" then
    some (categoriesRanges ("nd" :: categories.filterMap (·.names.head?)))
  else if ["cn", "unassigned"].contains name then
    some (Ranges.complement ((0xD800, 0xDFFF) ::
      categoriesRanges ("nd" :: categories.filterMap (·.names.head?))))
  else if ["c", "other"].contains name then
    some (Ranges.complement (categoriesRanges ("nd" ::
      (categories.filterMap (·.names.head?)).filter fun name => ["cc", "cf", "co"].all (· ≠ name))))
  else if ["nd", "decimalnumber", "digit"].contains name then some decimalDigits
  else match categoryGroups.find? (·.1.contains name) with
    | some group => some (categoriesRanges group.2)
    | none => (categories.find? (·.names.contains name)).map fun category =>
        Ranges.read category.ranges

def scriptNamed? (name : String) : Option Script :=
  scripts.find? (·.names.contains name)

def script? (name : String) : Option Ranges :=
  (scriptNamed? name).map fun script => Ranges.read script.ranges

def scriptExtension? (name : String) : Option Ranges :=
  (scriptNamed? name).map fun script =>
    Ranges.read (if script.extended = "" then script.ranges else script.extended)

/-- The set of a binary property. -/
def property? (name : String) : Option Ranges :=
  (properties.find? (·.names.contains name)).map fun property =>
    Ranges.difference (categoriesRanges property.categories ++ Ranges.read property.added)
      (Ranges.read property.removed)

/-- The set with the given name: a property, else a category, else a script. -/
def set? (name : String) : Option Ranges :=
  let key := normalName name
  property? key <|> category? key <|> script? key

/-- The set of the code points for which a property has a value. -/
def valueSet? (property value : String) : Option Ranges :=
  let key := normalName value
  match normalName property with
  | "gc" | "generalcategory" => category? key
  | "sc" | "script" => script? key
  | "scx" | "scriptextensions" => scriptExtension? key
  | _ => none

/-- Code points that form words: letters, marks, digits, connectors and joiners. -/
def wordRanges : Ranges :=
  categoriesRanges ["lu", "ll", "lt", "lm", "lo", "mn", "mc", "me", "nd", "nl", "pc"] ++
    [(0x200C, 0x200D), (0x24B6, 0x24E9), (0x1F130, 0x1F149), (0x1F150, 0x1F169),
      (0x1F170, 0x1F189)]

/-- White space, as ranges. -/
def blankRanges : Ranges :=
  (property? "whitespace").getD []

/-- Letters in the wide sense. -/
def alphabeticRanges : Ranges :=
  (property? "alphabetic").getD []

/-- Letters in the wide sense and numbers of every kind. -/
def alphanumericRanges : Ranges :=
  alphabeticRanges ++ categoriesRanges ["nd", "nl", "no"]

end ScopedRouting.Unicode
