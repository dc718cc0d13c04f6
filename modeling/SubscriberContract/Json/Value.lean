import SubscriberContract.Json.Failure

/-!
# JSON values

The tree of a JSON text, and its compact text: no blanks, members in the order given, and in strings
only the quote, the backslash and the control characters below the space escaped.
-/

namespace SubscriberContract

/-- A number as a reader tells it apart: naturals below `2 ^ 64`, negative integers from `-2 ^ 63`
on, and everything else as a binary64 pattern. -/
inductive Json.Number
  | natural (n : Nat)
  /-- The integer `-n`. -/
  | negative (n : Nat)
  | floating (bits : UInt64)
deriving DecidableEq, Repr

inductive Json
  | null
  | boolean (b : Bool)
  | number (n : Json.Number)
  | text (s : String)
  | array (items : List Json)
  | object (members : List (String × Json))
deriving BEq, Repr

namespace Json

def natural (n : Nat) : Json := .number (.natural n)

/-- What a value of another kind is called. -/
def found : Json → Found
  | .null => .null
  | .boolean b => .boolean b
  | .number (.natural n) => .integer n
  | .number (.negative n) => .integer (-n)
  | .number (.floating bits) => .floating bits
  | .text s => .text s
  | .array _ => .sequence
  | .object _ => .map

def hexDigit (n : Nat) : Char := Nat.digitChar n

/-- A character as it stands in a string. -/
def escaped (c : Char) : List Char :=
  match c with
  | '"' => ['\\', '"']
  | '\\' => ['\\', '\\']
  | '\x08' => ['\\', 'b']
  | '\t' => ['\\', 't']
  | '\n' => ['\\', 'n']
  | '\x0c' => ['\\', 'f']
  | '\r' => ['\\', 'r']
  | c =>
    if c < ' ' then ['\\', 'u', '0', '0', hexDigit (c.toNat / 16), hexDigit (c.toNat % 16)]
    else [c]

def stringChars (s : String) : List Char := '"' :: s.toList.flatMap escaped ++ ['"']

def Number.chars : Number → List Char
  | .natural n => Nat.toDigits 10 n
  | .negative n => '-' :: Nat.toDigits 10 n
  | .floating bits => (floatStyle.print bits).toList

mutual

/-- The compact text. -/
def chars : Json → List Char
  | .null => ['n', 'u', 'l', 'l']
  | .boolean true => ['t', 'r', 'u', 'e']
  | .boolean false => ['f', 'a', 'l', 's', 'e']
  | .number n => n.chars
  | .text s => stringChars s
  | .array items => '[' :: itemChars items
  | .object members => '{' :: memberChars members

/-- The items of an array and the closing bracket. -/
def itemChars : List Json → List Char
  | [] => [']']
  | [j] => j.chars ++ [']']
  | j :: k :: rest => j.chars ++ ',' :: itemChars (k :: rest)

/-- The members of an object and the closing brace. -/
def memberChars : List (String × Json) → List Char
  | [] => ['}']
  | [(name, j)] => stringChars name ++ ':' :: j.chars ++ ['}']
  | (name, j) :: m :: rest => stringChars name ++ ':' :: j.chars ++ ',' :: memberChars (m :: rest)

end

def compact (j : Json) : String := String.ofList j.chars

mutual

/-- How many arrays and objects are open at the deepest place of the text. -/
def depth : Json → Nat
  | .array items => depthOfItems items + 1
  | .object members => depthOfMembers members + 1
  | _ => 0

def depthOfItems : List Json → Nat
  | [] => 0
  | j :: rest => max j.depth (depthOfItems rest)

def depthOfMembers : List (String × Json) → Nat
  | [] => 0
  | (_, j) :: rest => max j.depth (depthOfMembers rest)

end

end Json
end SubscriberContract
