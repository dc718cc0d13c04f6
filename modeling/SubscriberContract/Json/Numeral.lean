import SubscriberContract.Json.Scalar

/-!
# Reading numbers

A number without fraction and exponent stays an integer where it fits 64 bits. Every other number
becomes binary64: its first digits, as many as fit an unsigned word, times a power of ten.
-/

namespace SubscriberContract.Json

def isDigit (c : Char) : Bool := '0' ≤ c && c ≤ '9'

def digitValue (c : Char) : Nat := c.toNat - '0'.toNat

/-- The digits at the front of a text, and what follows them. -/
def takeDigits (s : Input) : List Char × Input := (s.takeWhile isDigit, s.dropWhile isDigit)

/-- Extends a number by digits while it stays below `2 ^ 64`: the number, how many digits were
taken, and those that were not. -/
def extend : (number : Nat) → List Char → Nat × Nat × List Char
  | n, [] => (n, 0, [])
  | n, d :: ds =>
    let n' := n * 10 + digitValue d
    if n' < UInt64.size then
      let (r, taken, left) := extend n' ds
      (r, taken + 1, left)
    else (n, 0, d :: ds)

/-- Divides by powers of ten until the exponent is in reach, or the quotient is zero. -/
def scaleDown : (tries : Nat) → Float → (exponent : Nat) → Float
  | 0, f, _ => f
  | tries + 1, f, exponent =>
    if exponent ≤ 308 then f / Float.ofScientific 1 false exponent
    else if f == 0 then f
    else scaleDown tries (f / Float.ofScientific 1 false 308) (exponent - 308)

/-- `significand · 10 ^ exponent`, where it is finite; rounded after each operation. Three
divisions bring every word below the least positive value. -/
def scale? (significand : Nat) (exponent : Int) : Option Float :=
  let f := significand.toUInt64.toFloat
  if exponent < 0 then some (scaleDown 3 f exponent.natAbs)
  else if exponent ≤ 308 then
    let r := f * Float.ofScientific 1 false exponent.natAbs
    if r.isInf then none else some r
  else if f == 0 then some f
  else none

def floating (negative : Bool) (f : Float) : Number :=
  .floating (if negative then -f else f).toBits

/-- The number of a significand and an exponent; `s` follows it. -/
def finish (negative : Bool) (significand : Nat) (exponent : Int) (s : Input) :
    Except Failure (Number × Input) :=
  match scale? significand exponent with
  | some f => .ok (floating negative f, s)
  | none => stopBefore .numberOutOfRange s

/-- The greatest exponent that is told apart. -/
def maxExponent : Nat := Nat.pow 2 31 - 1

/-- Extends an exponent by digits, or gives what follows the first digit that takes it beyond
`maxExponent`. -/
def readExponentDigits : (exponent : Nat) → Input → Except Input (Nat × Input)
  | n, c :: s =>
    if isDigit c then
      let n' := n * 10 + digitValue c
      if n' ≤ maxExponent then readExponentDigits n' s else .error s
    else .ok (n, c :: s)
  | n, [] => .ok (n, [])

/-- Reads an exponent after the letter `e`. -/
def readExponent (negative : Bool) (significand : Nat) (before : Int) (s : Input) :
    Except Failure (Number × Input) :=
  let (down, s) := match s with
    | '+' :: s => (false, s)
    | '-' :: s => (true, s)
    | s => (false, s)
  match s with
  | [] => cut .value
  | c :: rest =>
    if isDigit c then
      match readExponentDigits (digitValue c) rest with
      | .ok (n, s) => finish negative significand (if down then before - n else before + n) s
      | .error s =>
        if significand ≠ 0 ∧ !down then stopBefore .numberOutOfRange s
        else .ok (floating negative 0, (takeDigits s).2)
    else stopAt .invalidNumber s

/-- Reads what may follow the digits of a number that is no integer: an exponent or nothing. -/
def readTail (negative : Bool) (significand : Nat) (exponent : Int) (s : Input) :
    Except Failure (Number × Input) :=
  match s with
  | 'e' :: s | 'E' :: s => readExponent negative significand exponent s
  | s => finish negative significand exponent s

/-- Reads a fraction after its point. Digits that do not fit the significand are passed over. -/
def readFraction (negative : Bool) (significand : Nat) (exponent : Int) (s : Input) :
    Except Failure (Number × Input) :=
  match takeDigits s with
  | ([], []) => cut .value
  | ([], s) => stopAt .invalidNumber s
  | (digits, s) =>
    let (significand, taken, _) := extend significand digits
    readTail negative significand (exponent - taken) s

/-- Reads a number after its sign. -/
def readNumeral (negative : Bool) (s : Input) : Except Failure (Number × Input) :=
  match takeDigits s with
  | ([], []) => cut .value
  | ([], s) => stopAt .invalidNumber s
  | ('0' :: d :: ds, s) => stopAt .invalidNumber (d :: ds ++ s)
  | (digits, s) =>
    let (significand, _, dropped) := extend 0 digits
    match s with
    | '.' :: s => readFraction negative significand dropped.length s
    | 'e' :: s | 'E' :: s => readExponent negative significand dropped.length s
    | s =>
      if dropped ≠ [] then finish negative significand dropped.length s
      else if !negative then .ok (.natural significand, s)
      else if 0 < significand ∧ significand ≤ Nat.pow 2 63 then .ok (.negative significand, s)
      else .ok (floating true significand.toUInt64.toFloat, s)

/-- Passes over an exponent after the letter `e`. -/
def skipExponent (s : Input) : Except Failure Input :=
  let s := match s with
    | '+' :: s | '-' :: s => s
    | s => s
  match takeDigits s with
  | ([], s) => stopAt .invalidNumber s
  | (_, s) => .ok s

/-- Passes over a number after its sign; its size does not matter. -/
def skipNumeral (s : Input) : Except Failure Input :=
  match takeDigits s with
  | ([], s) => stopAt .invalidNumber s
  | ('0' :: d :: ds, s) => stopAt .invalidNumber (d :: ds ++ s)
  | (_, s) =>
    match s with
    | '.' :: s =>
      match takeDigits s with
      | ([], s) => stopAt .invalidNumber s
      | (_, 'e' :: s) | (_, 'E' :: s) => skipExponent s
      | (_, s) => .ok s
    | 'e' :: s | 'E' :: s => skipExponent s
    | s => .ok s

end SubscriberContract.Json
