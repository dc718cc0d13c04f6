import SubscriberContract.Json.Numeral
import SubscriberContract.Json.Separator

/-!
# Reading a value of any kind

Reads a JSON text into its tree. `room` is how many more arrays and objects may be opened inside one
another.
-/

namespace SubscriberContract.Json

/-- How deeply arrays and objects may nest. -/
def maxDepth : Nat := 127

/-- Reads a keyword, number or string; on any other character the fault is that a value is
expected. -/
def readScalar (s : Input) : Except Failure (Json × Input) :=
  match s with
  | [] => cut .value
  | 'n' :: s => (readKeyword ['u', 'l', 'l'] s).map (Json.null, ·)
  | 't' :: s => (readKeyword ['r', 'u', 'e'] s).map (Json.boolean true, ·)
  | 'f' :: s => (readKeyword ['a', 'l', 's', 'e'] s).map (Json.boolean false, ·)
  | '"' :: s => (readText s).map fun (t, s) => (.text t, s)
  | '-' :: s => (readNumeral true s).map fun (n, s) => (.number n, s)
  | c :: s =>
    if isDigit c then (readNumeral false (c :: s)).map fun (n, s) => (.number n, s)
    else stopAt .expectedValue (c :: s)

/-- Reads a member into the list of the members so far, the last first. -/
def readTreeMember (value : Reader Json) (name : String) (members : List (String × Json)) :
    Reader (List (String × Json)) := fun s =>
  match readColon s with
  | .error f => .error f
  | .ok s =>
    match value s with
    | .error f => .error f
    | .ok (j, s) => .ok ((name, j) :: members, s)

/-- Reads a value of any kind. -/
def readTree : (room : Nat) → Reader Json
  | 0, s =>
    match skipSpaces s with
    | '[' :: s => stopAt .tooDeep ('[' :: s)
    | '\x7b' :: s => stopAt .tooDeep ('\x7b' :: s)
    | s => readScalar s
  | room + 1, s =>
    match skipSpaces s with
    | '[' :: s =>
      (inList (readItems (readTree room) true) s).map fun (items, s) => (.array items, s)
    | '\x7b' :: s =>
      (inObject (readMembers (readTreeMember (readTree room)) []) s).map fun (members, s) =>
        (.object members.reverse, s)
    | s => readScalar s

/-- Nothing but white space may follow a value. -/
def readEnd (s : Input) : Except Failure Unit :=
  match skipSpaces s with
  | [] => .ok ()
  | s => stopAt .trailingText s

/-- Reads the whole of a text with one reader. -/
def readWhole {α : Type} (read : Reader α) (text : String) : Except Failure α := do
  let (a, s) ← read text.toList
  readEnd s
  return a

def parse (text : String) : Except Failure Json := readWhole (readTree maxDepth) text

end SubscriberContract.Json
