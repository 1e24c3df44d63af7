import ScopedRouting.Template.Args
import ScopedRouting.Text.Percent
import ScopedRouting.Value

/-!
# Converters

A converter turns a path token into a value and a value into a token again. Which converter a
dynamic segment has is decided by the first character of its name: `$` for texts, `+` for numbers
and `!` for truth values, texts without one of these.
-/
namespace ScopedRouting

structure Converter where
  /-- Whether a token can be converted at all. -/
  accepts : String → Bool
  read? : String → Option Value
  write : Value → String

namespace Converter

/-- Every token, percent-decoded if its bytes allow it. Values are written percent-encoded. -/
def text : Converter where
  accepts _ := true
  read? token := some (.text (Percent.decodeOrKeep token))
  write value := Percent.encodeComponent value.toText

/-- Tokens that begin with a number. Values are written as they are. -/
def number : Converter where
  accepts token := (Binary64.leading? token).isSome
  read? token := (Binary64.leading? token).map .number
  write value := value.toText

/-- Whether a value counts as true beside the word for it. -/
def isTrue (trueWord : String) : Value → Bool
  | .bool b => b
  | .text s => s = trueWord
  | .number n => !n.isZero

/-- Two words, the first of them if they are equal. -/
def boolean (trueWord falseWord : String) : Converter where
  accepts token := token = trueWord || token = falseWord
  read? token :=
    if token = trueWord then some (.bool true)
    else if token = falseWord then some (.bool false)
    else none
  write value := if isTrue trueWord value then trueWord else falseWord

/-- Truth values with the words of a choice, or with the usual words under other arguments. -/
def booleanOf (name : String) : Template.Args → Except Template.Error Converter
  | .choice [trueWord, falseWord] => .ok (boolean trueWord falseWord)
  | .choice words => .error (.booleanArity name words.length)
  | _ => .ok (boolean "true" "false")

end Converter

/-- Picks a converter by indicator, segment name and arguments. An indicator that is not known
is part of the name, and the fallback converts. -/
structure ConverterFactory where
  create : (indicator : Char) → (name : String) → Template.Args →
    Except Template.Error (Option Converter)
  fallback : Converter

def ConverterFactory.standard : ConverterFactory where
  create
    | '$', _, _ => .ok (some .text)
    | '+', _, _ => .ok (some .number)
    | '!', name, args => (Converter.booleanOf name args).map some
    | _, _, _ => .ok none
  fallback := .text

end ScopedRouting
