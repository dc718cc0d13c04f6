import SubscriberContract.Text.Binary64
import SubscriberContract.Text.Quoted

/-!
# Mismatches

A document can be well formed and still not describe a value of the type asked for. The reasons are
the same for unit files and for configuration files, and so are their texts, except for the notation
of floating-point numbers.
-/

namespace SubscriberContract

/-- What a document holds where something else is expected. -/
inductive Found
  | integer (value : Int)
  /-- A number that is no integer, by its binary64 pattern. -/
  | floating (bits : UInt64)
  | text (value : String)
  | boolean (value : Bool)
  | null
  | sequence
  | map
deriving DecidableEq, Repr

inductive Mismatch
  | wrongType (found : Found) (expected : String)
  | wrongValue (found : Found) (expected : String)
  | wrongLength (length : Nat) (expected : String)
  | unknownVariant (name : String) (known : List String)
  | unknownMember (name : String) (known : List String)
  | missingMember (name : String)
  | repeatedMember (name : String)
  /-- A reason of the type's own, given by its text. -/
  | refused (reason : String)
deriving DecidableEq, Repr

def Found.describe (style : Text.FloatStyle) : Found → String
  | .integer value => s!"integer `{value}`"
  | .floating bits => s!"floating point `{style.print bits}`"
  | .text value => s!"string {Text.quoted value}"
  | .boolean value => s!"boolean `{value}`"
  | .null => "null"
  | .sequence => "sequence"
  | .map => "map"

/-- A choice between names: `a`, then `a` or `b`, then one of `a`, `b`, `c`. -/
def describeChoice (names : List String) : String :=
  match names.map fun n => s!"`{n}`" with
  | [] => "there are no variants"
  | [a] => s!"expected {a}"
  | [a, b] => s!"expected {a} or {b}"
  | quoted => "expected one of " ++ ", ".intercalate quoted

def Mismatch.describe (style : Text.FloatStyle) : Mismatch → String
  | .wrongType found expected => s!"invalid type: {found.describe style}, expected {expected}"
  | .wrongValue found expected => s!"invalid value: {found.describe style}, expected {expected}"
  | .wrongLength length expected => s!"invalid length {length}, expected {expected}"
  | .unknownVariant name known => s!"unknown variant `{name}`, {describeChoice known}"
  | .unknownMember name known => s!"unknown field `{name}`, {describeChoice known}"
  | .missingMember name => s!"missing field `{name}`"
  | .repeatedMember name => s!"duplicate field `{name}`"
  | .refused reason => reason

end SubscriberContract
