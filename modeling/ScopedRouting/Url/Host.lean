import ScopedRouting.Text.Percent
import ScopedRouting.Unicode.Named
import ScopedRouting.Url.Address
import ScopedRouting.Url.Punycode

/-!
# Hosts of URLs

Which hosts a URL may have. In a special URL a host is an address or a name; a name is
percent-decoded, and full-width forms and the ideographic stops count as the ASCII characters
they look like. Characters of international labels are judged by their general category: letters,
marks, numbers, punctuation and symbols are good, except those that are short for texts with
delimiters, and no label begins with a mark. In any other URL a host is any text without a few
delimiters.
-/
namespace ScopedRouting.Url

/-- ASCII characters that no host name has: controls, the blank and delimiters. -/
def isForbiddenInName (c : Char) : Bool :=
  c.toNat ≤ 0x20 || c.toNat == 0x7F || "%#/:<>?@[\\]^|".toList.contains c

/-- ASCII characters that no host of any URL has. -/
def isForbiddenInHost (c : Char) : Bool :=
  c.toNat == 0 || "\t\n\r #/:<>?@[\\]^|".toList.contains c

/-- The form of a character in a name: lower case, ASCII for what only looks different. Some
characters leave no trace. -/
def mapNameChar (c : Char) : List Char :=
  let n := c.toNat
  if n < 0x80 then [c.toLower]
  else if 0xFF01 ≤ n ∧ n ≤ 0xFF5E then [(Char.ofNat (n - 0xFEE0)).toLower]
  else if n = 0x3002 ∨ n = 0xFF61 then ['.']
  else if n = 0xAD ∨ n = 0x200B ∨ n = 0x2060 ∨ n = 0xFEFF ∨ (0xFE00 ≤ n ∧ n ≤ 0xFE0F) then []
  else [c]

/-- Code points that are short for texts with a blank, a stop or a delimiter, such as the sign
for `c/o`. -/
def compositeRanges : Unicode.Ranges :=
  .read "A8 AF B4 B8 2D8-2DD 37A 384-385 1FBD 1FBF-1FC1 1FCD-1FCF 1FDD-1FDF 1FED-1FEE 1FFD-1FFE
    2017 2024-2026 203E 2047-2049 2100-2101 2105-2106 2488-249B 2A74 309B-309C 33C2 33C7 33D8
    FE12-FE13 FE16 FE19 FE30 FE47-FE4C FE52 FE55-FE56 FE5F FE64-FE65 FE68 FE6A-FE6B FFE3
    FFFC-FFFD 1F100"

/-- Code points that no name has, ASCII apart. -/
def badNameRanges : Unicode.Ranges :=
  compositeRanges ++ (["cc", "cf", "co", "zs", "zl", "zp"].flatMap Unicode.categoryRanges) ++
    (Unicode.category? "cn").getD []

def markRanges : Unicode.Ranges :=
  Unicode.categoriesRanges ["mn", "mc", "me"]

/-- Whether the code points of an international label may stand together. -/
def isLabel (label : List Nat) : Bool :=
  label.all (fun n => n < 0x80 || !badNameRanges.contains n) &&
    match label with
    | [] => true
    | first :: _ => !markRanges.contains first

/-- Whether a label in lower case is good, decoded first if it is in ASCII form. The ASCII form
must stand for something that is not ASCII. -/
def isGoodLabel (label : List Char) : Bool :=
  match label with
  | 'x' :: 'n' :: '-' :: '-' :: encoded =>
    match Punycode.decode? encoded with
    | some decoded => decoded.any (0x80 ≤ ·) && isLabel decoded
    | none => false
  | _ => isLabel (label.map Char.toNat)

/-- The name that a text stands for, if it is one. -/
def readName? (text : List Char) : Option (List Char) := do
  let decoded ← Utf8.decode? (Percent.decodeBytes (Utf8.encode text))
  let name := decoded.flatMap mapNameChar
  if name ≠ [] ∧ (name.splitOn '.').all isGoodLabel ∧ !name.any isForbiddenInName ∧
      (Address.endsInNumber name → Address.isVersion4 name) then some name
  else none

/-- Reads a host: a version 6 address in brackets, else a name, or in a URL that is not special
any text of allowed characters. -/
def readHost? (special : Bool) (text : List Char) : Option (List Char) :=
  match text with
  | '[' :: rest =>
    if rest.getLast? = some ']' ∧ Address.isVersion6 rest.dropLast then some text else none
  | _ =>
    if special then readName? text
    else if text.any isForbiddenInHost then none
    else some text

end ScopedRouting.Url
