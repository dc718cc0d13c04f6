import SubscriberContract.Json.Numeral
import SubscriberContract.Json.Separator

/-!
# Passing over values

The value of a member that nobody asked for is only passed over: nesting is not limited, numbers may
be of any size, and surrogates need not be paired. What is open is kept as a list of brackets.
-/

namespace SubscriberContract.Json

inductive Bracket
  | square | curly
deriving DecidableEq, Repr

/-- What is open around a value, the innermost first. -/
abbrev Open := List Bracket

/-- Passes over a value that holds no other; a bracket is opened instead. -/
def skipStart (s : Input) : Except Failure (Option Bracket × Input) :=
  match skipSpaces s with
  | [] => cut .value
  | 'n' :: s => (readKeyword ['u', 'l', 'l'] s).map (none, ·)
  | 't' :: s => (readKeyword ['r', 'u', 'e'] s).map (none, ·)
  | 'f' :: s => (readKeyword ['a', 'l', 's', 'e'] s).map (none, ·)
  | '"' :: s => (skipChars s).map (none, ·)
  | '-' :: s => (skipNumeral s).map (none, ·)
  | '[' :: s => .ok (some .square, s)
  | '\x7b' :: s => .ok (some .curly, s)
  | c :: s =>
    if isDigit c then (skipNumeral (c :: s)).map (none, ·) else stopAt .expectedValue (c :: s)

/-- Passes over the name and colon in front of a member. -/
def skipName (s : Input) : Except Failure Input :=
  match skipSpaces s with
  | [] => cut .object
  | '"' :: s =>
    match skipChars s with
    | .error f => .error f
    | .ok s => readColon s
  | s => stopAt .keyNotText s

/-- Passes over closing brackets and a comma after a value (`after`), or from directly inside the
innermost bracket. Gives what stays open around the next value; nothing when all is closed. -/
def skipBetween : Open → (after : Bool) → Input → Except Failure (Open × Input)
  | [], _, s => .ok ([], s)
  | b :: bs, after, s =>
    match b, skipSpaces s with
    | .square, [] => cut .list
    | .curly, [] => cut .object
    | .square, ']' :: s => skipBetween bs true s
    | .curly, '\x7d' :: s => skipBetween bs true s
    | _, c :: s =>
      if !after then .ok (b :: bs, c :: s)
      else if c = ',' then .ok (b :: bs, s)
      else stopAt (if b = .square then .expectedListEnd else .expectedObjectEnd) (c :: s)

/-- Passes over values until everything in `around` is closed, in at most `turns` turns. -/
def skipIn : (turns : Nat) → (around : Open) → Input → Except Failure Input
  | 0, _, _ => cut .value
  | turns + 1, around, s => do
    let (opened, s) ← skipStart s
    let (around, s) ← skipBetween (opened.toList ++ around) opened.isNone s
    match around with
    | [] => .ok s
    | .square :: _ => skipIn turns around s
    | .curly :: _ => skipIn turns around (← skipName s)

/-- Passes over a value. -/
def skipValue (s : Input) : Except Failure Input := skipIn (s.length + 1) [] s

end SubscriberContract.Json
