import SubscriberContract.Diagnostic
import SubscriberContract.Json.Format
import SubscriberContract.Toml.Document

/-!
# Settings

A configuration file has one table, `check`. A key that is not known is refused at both levels, so a
misspelled setting is never taken for its default. The table may also be an array of the values in
order.
-/

namespace SubscriberContract

inductive OutputFormat
  | text | json
deriving DecidableEq, Repr

namespace OutputFormat

def name : OutputFormat → String
  | .text => "text"
  | .json => "json"

def all : List OutputFormat := [.text, .json]

def format : Json.Format OutputFormat := .choice all name

/-- The format of this name, as the command line takes it. -/
def ofName? (t : String) : Option OutputFormat := all.find? (name · == t)

/-- What is said of a name that no format has. -/
def unknown (t : String) : String := s!"unknown format '{t}': expected 'text' or 'json'"

end OutputFormat

structure Settings where
  /-- The format of reports, unless the command line gives one. -/
  format : Option OutputFormat
  /-- The codes reported as warnings. -/
  warn : List Code
  /-- Whether warnings fail a run. -/
  denyWarnings : Bool
  /-- The names of directories that are not searched. -/
  exclude : List String
deriving DecidableEq, Repr

instance : Inhabited Settings := ⟨⟨none, [], false, []⟩⟩

/-- Numbers in configuration files are never written with an exponent. -/
def tomlFloatStyle : Text.FloatStyle := ⟨-400, 400⟩

namespace Settings

open Toml (Value LocatedValue Entries Extent)

/-- Why a configuration file is refused. -/
inductive Fault
  /-- The text is no document. -/
  | malformed (trouble : Toml.Trouble)
  /-- The document does not describe settings, for what stands in a place of it. -/
  | refused (mismatch : Mismatch) (place : Option Extent)
deriving DecidableEq, Repr

namespace Fault

def message : Fault → String
  | .malformed trouble => trouble.describe
  | .refused mismatch _ => mismatch.describe tomlFloatStyle

def place : Fault → Option Extent
  | .malformed trouble => some (.atFront trouble.rest)
  | .refused _ place => place

/-- The text of a fault, with the line of the document where it is. -/
def describeIn (f : Fault) (text : String) : String :=
  match f.place with
  | some e => e.pointOut text.toList f.message
  | none => f.message ++ "\n"

end Fault

/-- Gives a fault without a place the place of what is around it. -/
def within {α : Type} (place : Option Extent) (r : Except Fault α) : Except Fault α :=
  r.mapError fun
    | .refused mismatch none => .refused mismatch place
    | f => f

/-- A mismatch at a place. -/
def refuse {α : Type} (place : Option Extent) (mismatch : Mismatch) : Except Fault α :=
  .error (.refused mismatch place)

abbrev FromToml (α : Type) := LocatedValue → Except Fault α

def asText : FromToml String
  | ⟨_, .text s⟩ => .ok s
  | ⟨place, v⟩ => refuse place (.wrongType v.found "a string")

def asBoolean : FromToml Bool
  | ⟨_, .boolean b⟩ => .ok b
  | ⟨place, v⟩ => refuse place (.wrongType v.found "a boolean")

/-- The tables of an array as its items. -/
def tableItems (tables : List (Toml.Located Entries)) : List LocatedValue :=
  tables.map fun t => ⟨t.extent, .table .header t.value⟩

def asList {α : Type} (item : FromToml α) : FromToml (List α)
  | ⟨place, .array items⟩ => within place (items.mapM item)
  | ⟨place, .tables items⟩ => within place ((tableItems items).mapM item)
  | ⟨place, v⟩ => refuse place (.wrongType v.found "a sequence")

/-- A variant without content may have an empty table or array beside its name. -/
def expectEmpty : FromToml Unit
  | ⟨place, v⟩ =>
    match v with
    | .array [] | .tables [] | .inlineTable _ [] | .table _ [] => .ok ()
    | .array _ | .tables _ => refuse place (.refused "expected empty array")
    | .inlineTable .. | .table .. => refuse place (.refused "expected empty table")
    | v => refuse place (.refused s!"expected table, found {v.kind}")

/-- A variant: its name, or a table with the name as its only key. -/
def asChoice {α : Type} (all : List α) (name : α → String) : FromToml α
  | ⟨place, v⟩ =>
    let variant (place : Option Extent) (t : String) : Except Fault α :=
      (Json.Format.variant all name t).mapError (.refused · place)
    match v with
    | .text t => variant place t
    | .inlineTable _ entries | .table _ entries =>
      match entries with
      | [] => refuse place (.refused "wanted exactly 1 element, found 0 elements")
      | [(key, value)] => do
        let a ← variant (some key.extent) key.name
        within place (expectEmpty value)
        return a
      | _ => refuse place (.refused "wanted exactly 1 element, more than 1 element")
    | _ => refuse place (.refused "wanted string or table")

def keys : List String := ["format", "warn", "deny_warnings", "exclude"]

/-- Takes the value of a key into the settings. -/
def set (s : Settings) (key : String) (v : LocatedValue) : Except Fault Settings :=
  match key with
  | "format" => do
    return { s with format := some (← asChoice OutputFormat.all OutputFormat.name v) }
  | "warn" => do return { s with warn := ← asList (asChoice Code.all Code.label) v }
  | "deny_warnings" => do return { s with denyWarnings := ← asBoolean v }
  | "exclude" => do return { s with exclude := ← asList asText v }
  | _ => refuse none (.unknownMember key keys)

def setAll (entries : Entries) : Except Fault Settings :=
  entries.foldlM (fun s (key, v) => within (some key.extent) (s.set key.name v)) default

/-- Takes values in the order of the keys. -/
def setInOrder (items : List LocatedValue) : Except Fault Settings :=
  (keys.zip items).foldlM (fun s (key, v) => s.set key v) default

/-- A date-time passes for a table with this key. -/
def dateTimeKey : String := "$__toml_private_datetime"

/-- The settings of a `check` table. -/
def ofTable : FromToml Settings
  | ⟨place, v⟩ => within place <|
    match v with
    | .inlineTable _ entries | .table _ entries => setAll entries
    | .array items => setInOrder items
    | .tables items => setInOrder (tableItems items)
    | .dateTime => refuse place (.unknownMember dateTimeKey keys)
    | v => refuse place (.wrongType v.found "struct CheckConfig")

/-- The settings of a document. -/
def ofDocument (entries : Entries) : Except Fault Settings :=
  entries.foldlM (fun _ (key, v) => within (some key.extent) <|
    if key.name = "check" then ofTable v
    else refuse none (.unknownMember key.name ["check"])) default

/-- Reads a configuration file. -/
def parse (text : String) : Except Fault Settings := do
  ofDocument (← (Toml.parse text).mapError .malformed)

end Settings
end SubscriberContract
