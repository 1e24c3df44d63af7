import ScopedRouting.Path
import ScopedRouting.Text.Quoted
import ScopedRouting.Toml.Reader

/-!
# Router configuration

The settings of a scope, and reading them from the table `router` of a TOML document. Keys that
are left out have defaults; in the table no other keys are allowed, beside it they are ignored.
-/
namespace ScopedRouting

structure Config where
  /-- The first token of URLs that stay within a scope. -/
  relativeIndicator : String := "."
  /-- What stands before the query of such a URL. Other URLs always have a question mark. -/
  querySeparator : Char := '?'
  /-- The base of URLs without scheme and host. -/
  baseUrl : String := "http://localhost/"
  /-- Whether a handler is invoked again when only the query is new. -/
  reinvokeOnQueryChange : Bool := false
deriving DecidableEq

namespace Config

/-- Faults of a configuration, the outermost cause. -/
inductive Error where
  | invalid
  | unreadable (file : String)
  | unparsable (file : String)
deriving DecidableEq

def Error.message : Error → String
  | .invalid => "Invalid router configuration"
  | .unreadable file => "Failed to read config file: " ++ Quoted.encode file
  | .unparsable file => "Failed to parse config file: " ++ Quoted.encode file

def pathOptions (config : Config) : Path.Options :=
  { relativeIndicator := config.relativeIndicator }

def text? : Toml → Option String
  | .string s => some s
  | _ => none

/-- A text of exactly one character. -/
def character? : Toml → Option Char
  | .string s =>
    match s.toList with
    | [c] => some c
    | _ => none
  | _ => none

def bool? : Toml → Option Bool
  | .bool b => some b
  | _ => none

/-- Sets one key. -/
def set? (config : Config) (key : String) (value : Toml) : Option Config :=
  match key with
  | "relative_indicator" => (text? value).map fun v => { config with relativeIndicator := v }
  | "query_separator" => (character? value).map fun v => { config with querySeparator := v }
  | "base_url" => (text? value).map fun v => { config with baseUrl := v }
  | "reinvoke_on_query_change" =>
    (bool? value).map fun v => { config with reinvokeOnQueryChange := v }
  | _ => none

/-- The keys in the order in which an array gives their values. -/
def keys : List String :=
  ["relative_indicator", "query_separator", "base_url", "reinvoke_on_query_change"]

/-- Reads the settings: a table, or an array with the values in the order of the keys. -/
def ofToml? : Toml → Option Config
  | .table _ entries => entries.foldlM (fun config entry => config.set? entry.1 entry.2) {}
  | .array items => (keys.zip items).foldlM (fun config entry => config.set? entry.1 entry.2) {}
  | _ => none

/-- Reads a configuration. Blank text is the default one. -/
def parse (text : String) : Except Error Config :=
  if Blank.trim text.toList = [] then .ok {}
  else match Toml.parse? text with
    | none => .error .invalid
    | some entries =>
      match Toml.lookup entries "router" with
      | none => .ok {}
      | some router =>
        match ofToml? router with
        | some config => .ok config
        | none => .error .invalid

/-- What is found under a file name. -/
inductive Source where
  | missing
  /-- Something that holds no bytes, such as a directory. -/
  | unreadable
  | bytes (content : List UInt8)

def defaultFile : String := "cascade.toml"

/-- The configuration of a file. A missing file is the default one. -/
def load (file : String) : Source → Except Error Config
  | .missing => .ok {}
  | .unreadable => .error (.unreadable file)
  | .bytes content =>
    match Utf8.decode? content with
    | none => .error (.unreadable file)
    | some text =>
      match parse (String.ofList text) with
      | .ok config => .ok config
      | .error _ => .error (.unparsable file)

end Config

end ScopedRouting
