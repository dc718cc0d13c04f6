import SubscriberContract.Mismatch
import SubscriberContract.Toml.Extent

/-!
# TOML values

A document is a table of keys and values in the order in which they were written. How a table came
to be decides whether it may still be extended. Keys and values know where they stand.
-/

namespace SubscriberContract.Toml

/-- How a table came to be. -/
inductive TableForm
  /-- By its own header. -/
  | header
  /-- By the header of a table inside it. -/
  | implied
  /-- By a dotted key. -/
  | dotted
deriving DecidableEq, Repr

structure Key where
  name : String
  extent : Extent
deriving DecidableEq, Repr

/-- Something with its place. Tables that only a longer key opened have none. -/
structure Located (α : Type) where
  extent : Option Extent
  value : α

inductive Value
  | text (s : String)
  | integer (n : Int)
  /-- A number by its binary64 pattern. -/
  | floating (bits : UInt64)
  | boolean (b : Bool)
  | dateTime
  | array (items : List (Located Value))
  /-- A table between braces, or one that a dotted key opened there. -/
  | inlineTable (dotted : Bool) (entries : List (Key × Located Value))
  | table (form : TableForm) (entries : List (Key × Located Value))
  /-- The tables that double-bracket headers opened. -/
  | tables (items : List (Located (List (Key × Located Value))))

abbrev LocatedValue := Located Value

abbrev Entries := List (Key × LocatedValue)

namespace Value

/-- What a value of another kind is called. -/
def found : Value → Found
  | .text s => .text s
  | .integer n => .integer n
  | .floating bits => .floating bits
  | .boolean b => .boolean b
  | .array _ | .tables _ => .sequence
  | .dateTime | .inlineTable .. | .table .. => .map

def kind : Value → String
  | .text _ => "string"
  | .integer _ => "integer"
  | .floating _ => "float"
  | .boolean _ => "boolean"
  | .dateTime => "datetime"
  | .array _ => "array"
  | .inlineTable .. => "inline table"
  | .table .. => "table"
  | .tables _ => "array of tables"

end Value

namespace Entries

/-- The value of a key. -/
def valueOf? (name : String) (entries : Entries) : Option LocatedValue :=
  (entries.find? (·.1.name == name)).map (·.2)

/-- Replaces the value of a key, which keeps its place, or adds the key at the end. -/
def put (key : Key) (value : LocatedValue) : Entries → Entries
  | [] => [(key, value)]
  | (k, v) :: rest =>
    if k.name = key.name then (k, value) :: rest else (k, v) :: Entries.put key value rest

end Entries
end SubscriberContract.Toml
