import SubscriberContract.Json.Value

/-!
# Reading literals and strings

The readers of the keywords and of strings. A string reader starts after the opening quote. Code
points beyond the first plane may be written as two escapes, a leading and a trailing surrogate; a
surrogate that is not part of such a pair is a fault.
-/

namespace SubscriberContract.Json

/-- Between tokens only these four characters may stand. -/
def isSpace (c : Char) : Bool := c == ' ' || c == '\n' || c == '\t' || c == '\r'

def skipSpaces (s : Input) : Input := s.dropWhile isSpace

/-- Reads the rest of a keyword. -/
def readKeyword : (keyword : List Char) → Input → Except Failure Input
  | [], s => .ok s
  | _ :: _, [] => cut .value
  | k :: ks, c :: s => if c = k then readKeyword ks s else stopAt .expectedLiteral (c :: s)

def hexValue? (c : Char) : Option Nat :=
  if '0' ≤ c ∧ c ≤ '9' then some (c.toNat - '0'.toNat)
  else if 'a' ≤ c ∧ c ≤ 'f' then some (c.toNat - 'a'.toNat + 10)
  else if 'A' ≤ c ∧ c ≤ 'F' then some (c.toNat - 'A'.toNat + 10)
  else none

/-- The number written by four hexadecimal digits. -/
def hexQuad? (a b c d : Char) : Option Nat := do
  return (((← hexValue? a) * 16 + (← hexValue? b)) * 16 + (← hexValue? c)) * 16 + (← hexValue? d)

/-- The fault of an escape `\u` without four hexadecimal digits: four bytes are looked at. -/
def badHex {α : Type} (s : Input) : Except Failure α :=
  if Text.byteCount s < 4 then cut .string else .error ⟨.malformed .invalidEscape, s, 4, true⟩

def isLeading (n : Nat) : Bool := 0xd800 ≤ n && n ≤ 0xdbff

def isTrailing (n : Nat) : Bool := 0xdc00 ≤ n && n ≤ 0xdfff

/-- The character written by a pair of surrogates. -/
def joinSurrogates (lead trail : Nat) : Char :=
  Char.ofNat ((lead - 0xd800) * 0x400 + (trail - 0xdc00) + 0x10000)

/-- The character written by a backslash and this one. -/
def unescape? : Char → Option Char
  | '"' => some '"'
  | '\\' => some '\\'
  | '/' => some '/'
  | 'b' => some '\x08'
  | 'f' => some '\x0c'
  | 'n' => some '\n'
  | 'r' => some '\r'
  | 't' => some '\t'
  | _ => none

/-- The fault of a text that does not go on with an escape `\u` after a leading surrogate. -/
def unpaired {α : Type} : Input → Except Failure α
  | [] | ['\\'] => cut .string
  | '\\' :: c :: s => stopAt .unpairedSurrogate (c :: s)
  | c :: s => stopAt .unpairedSurrogate (c :: s)

/-- Puts a character in front of what a reader gives. -/
def consChar (c : Char) : Except Failure (List Char × Input) → Except Failure (List Char × Input)
  | .ok (cs, s) => .ok (c :: cs, s)
  | .error f => .error f

/-- Reads a string up to and including its closing quote. -/
def readChars : Reader (List Char)
  | [] => cut .string
  | '"' :: s => .ok ([], s)
  | ['\\'] => cut .string
  | '\\' :: 'u' :: a :: b :: c :: d :: s =>
    match hexQuad? a b c d with
    | none => badHex (a :: b :: c :: d :: s)
    | some n =>
      if isTrailing n then stopBefore .loneSurrogate s
      else if isLeading n then
        match s with
        | '\\' :: 'u' :: a' :: b' :: c' :: d' :: t =>
          match hexQuad? a' b' c' d' with
          | none => badHex (a' :: b' :: c' :: d' :: t)
          | some m =>
            if isTrailing m then consChar (joinSurrogates n m) (readChars t)
            else stopBefore .loneSurrogate t
        | '\\' :: 'u' :: t => badHex t
        | t => unpaired t
      else consChar (Char.ofNat n) (readChars s)
  | '\\' :: c :: s =>
    if c = 'u' then badHex s
    else match unescape? c with
      | some e => consChar e (readChars s)
      | none => stopAt .invalidEscape (c :: s)
  | c :: s =>
    if c < ' ' then stopAt .controlCharacter (c :: s) else consChar c (readChars s)

/-- Reads a string as text. -/
def readText (s : Input) : Except Failure (String × Input) :=
  (readChars s).map fun (cs, s) => (String.ofList cs, s)

/-- Passes over a string whose value is not needed; here surrogates need not be paired. -/
def skipChars : Input → Except Failure Input
  | [] => cut .string
  | '"' :: s => .ok s
  | ['\\'] => cut .string
  | '\\' :: 'u' :: a :: b :: c :: d :: s =>
    match hexQuad? a b c d with
    | none => badHex (a :: b :: c :: d :: s)
    | some _ => skipChars s
  | '\\' :: c :: s =>
    if c = 'u' then badHex s
    else match unescape? c with
      | some _ => skipChars s
      | none => stopAt .invalidEscape (c :: s)
  | c :: s => if c < ' ' then stopBefore .controlCharacter (c :: s) else skipChars s

end SubscriberContract.Json
