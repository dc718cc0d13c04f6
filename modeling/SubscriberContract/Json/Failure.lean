import SubscriberContract.Mismatch
import SubscriberContract.Text.Cut

/-!
# Failures of reading JSON

Reading stops at the first fault. A fault of the text itself has its place at once. A mismatch is
found after the value was read and gets its place from the innermost value around it that is being
read. A place is a suffix of the text, and how many bytes of that suffix count as read; line and
column follow from it.
-/

namespace SubscriberContract.Json

/-- What was open where the text ended. -/
inductive Region
  | value | object | list | string
deriving DecidableEq, Repr

/-- Faults of the text itself. -/
inductive Malformation
  | expectedColon | expectedListEnd | expectedObjectEnd | expectedLiteral | expectedValue
  | invalidEscape | invalidNumber | numberOutOfRange | loneSurrogate | unpairedSurrogate
  | controlCharacter | keyNotText | trailingComma | trailingText | tooDeep
deriving DecidableEq, Repr

inductive Fault
  /-- The text ended too early. -/
  | ended (inside : Region)
  | malformed (what : Malformation)
  | mismatched (what : Mismatch)
deriving DecidableEq, Repr

inductive Category
  | ended | malformed | mismatched
deriving DecidableEq, Repr

def Fault.category : Fault → Category
  | .ended _ => .ended
  | .malformed _ => .malformed
  | .mismatched _ => .mismatched

def Region.name : Region → String
  | .value => "a value"
  | .object => "an object"
  | .list => "a list"
  | .string => "a string"

def Malformation.describe : Malformation → String
  | .expectedColon => "expected `:`"
  | .expectedListEnd => "expected `,` or `]`"
  | .expectedObjectEnd => "expected `,` or `\x7d`"
  | .expectedLiteral => "expected ident"
  | .expectedValue => "expected value"
  | .invalidEscape => "invalid escape"
  | .invalidNumber => "invalid number"
  | .numberOutOfRange => "number out of range"
  | .loneSurrogate => "lone leading surrogate in hex escape"
  | .unpairedSurrogate => "unexpected end of hex escape"
  | .controlCharacter => "control character (\\u0000-\\u001F) found while parsing a string"
  | .keyNotText => "key must be a string"
  | .trailingComma => "trailing comma"
  | .trailingText => "trailing characters"
  | .tooDeep => "recursion limit exceeded"

/-- Numbers are written with an exponent from `1e16` on and below `1e-5`. -/
def floatStyle : Text.FloatStyle := ⟨-5, 15⟩

def Fault.describe : Fault → String
  | .ended inside => s!"EOF while parsing {inside.name}"
  | .malformed what => what.describe
  | .mismatched what => what.describe floatStyle

/-- A fault and its place. -/
structure Failure where
  fault : Fault
  /-- The text that was not read yet. -/
  left : List Char
  /-- How many bytes of `left` the place already counts as read. -/
  ahead : Nat
  /-- Whether the place is final. -/
  placed : Bool
deriving DecidableEq, Repr

abbrev Input := List Char

/-- Reads a value from the front of the text and gives what is left of it. -/
abbrev Reader (α : Type) := Input → Except Failure (α × Input)

/-- The text ends inside `region`. -/
def cut {α : Type} (region : Region) : Except Failure α := .error ⟨.ended region, [], 0, true⟩

/-- A fault in front of `left`. -/
def stopBefore {α : Type} (what : Malformation) (left : Input) : Except Failure α :=
  .error ⟨.malformed what, left, 0, true⟩

/-- A fault at the first byte of `left`. -/
def stopAt {α : Type} (what : Malformation) (left : Input) : Except Failure α :=
  .error ⟨.malformed what, left, 1, true⟩

/-- A value was read and does not fit; `left` follows it. -/
def mismatch {α : Type} (what : Mismatch) (left : Input) : Except Failure α :=
  .error ⟨.mismatched what, left, 0, false⟩

/-- Gives a failure without a final place the place before `left`. -/
def Failure.placeBefore (left : Input) (f : Failure) : Failure :=
  if f.placed then f else { f with left, ahead := 0, placed := true }

/-- Gives a failure without a final place the one where reading stopped. -/
def Failure.place (f : Failure) : Failure := f.placeBefore f.left

/-- The failures of a reader, placed where it stopped. -/
def placed {α : Type} (r : Except Failure α) : Except Failure α := r.mapError Failure.place

/-- The line, and the bytes of it that were read, after the first `budget` bytes of a text. -/
def lineColumn : (text : List Char) → (budget line column : Nat) → Nat × Nat
  | [], _, line, column => (line, column)
  | c :: s, budget, line, column =>
    if budget = 0 then (line, column)
    else if c = '\n' then lineColumn s (budget - 1) (line + 1) 0
    else lineColumn s (budget - c.utf8Size) line (column + min budget c.utf8Size)

/-- The line and column of a failure in `text`, where it has a place. -/
def Failure.position? (f : Failure) (text : String) : Option (Nat × Nat) :=
  if f.placed then
    let read := Text.byteCount text.toList - Text.byteCount f.left
    some (lineColumn text.toList (read + f.ahead) 1 0)
  else none

/-- The text of a failure, with its place. -/
def Failure.describeIn (f : Failure) (text : String) : String :=
  match f.position? text with
  | some (line, column) => s!"{f.fault.describe} at line {line} column {column}"
  | none => f.fault.describe

end SubscriberContract.Json
