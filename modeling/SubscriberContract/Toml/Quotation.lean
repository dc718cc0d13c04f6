import SubscriberContract.Toml.Trivia

/-!
# TOML strings

Strings stand between double quotes, with escapes, or between single quotes, without. Three quotes
open a string that may go over lines; a line end right after them is dropped.
-/

namespace SubscriberContract.Toml

def isHexDigit (c : Char) : Bool :=
  ('0' ≤ c && c ≤ '9') || ('a' ≤ c && c ≤ 'f') || ('A' ≤ c && c ≤ 'F')

/-- The value of a digit in any base up to sixteen. -/
def digitValue (c : Char) : Nat :=
  if '0' ≤ c ∧ c ≤ '9' then c.toNat - '0'.toNat
  else if 'a' ≤ c ∧ c ≤ 'f' then c.toNat - 'a'.toNat + 10
  else c.toNat - 'A'.toNat + 10

def ofDigits (base : Nat) (digits : List Char) : Nat :=
  digits.foldl (fun n d => n * base + digitValue d) 0

/-- Reads a character given by so many hexadecimal digits. -/
def readCodePoint (count : Nat) (s : Input) : Except Trouble (Char × Input) :=
  let digits := (s.take count).takeWhile isHexDigit
  if digits.length < count then fail s
  else
    let n := ofDigits 16 digits
    if h : n.isValidChar then .ok (Char.ofNatAux n h, s.drop count) else failFor .outOfRange s

/-- The escapes of one character, as a failure lists them. -/
def escapes : List String :=
  ["`b`", "`f`", "`n`", "`r`", "`t`", "`u`", "`U`", "`\\`", "`\"`"]

/-- Reads an escape after its backslash. A character of one byte that begins none is passed. -/
def readEscape : Input → Except Trouble (Char × Input)
  | [] => fail []
  | c :: s =>
    match c with
    | 'b' => .ok ('\x08', s)
    | 'f' => .ok ('\x0c', s)
    | 'n' => .ok ('\n', s)
    | 'r' => .ok ('\r', s)
    | 't' => .ok ('\t', s)
    | '\\' => .ok ('\\', s)
    | '"' => .ok ('"', s)
    | 'u' => labelled "unicode 4-digit hex code" (must (readCodePoint 4 s))
    | 'U' => labelled "unicode 8-digit hex code" (must (readCodePoint 8 s))
    | _ => expecting escapes (labelled "escape sequence" (must
      (fail (if c.utf8Size = 1 then s else c :: s))))

/-- Reads the characters of a string in double quotes, up to its end or a character that cannot
stand in it. -/
def readBasicChars : (turns : Nat) → Reader (List Char)
  | 0, s => .ok ([], s)
  | turns + 1, s =>
    match s with
    | '\\' :: rest => do
      match ← attempt (readEscape rest) with
      | none => return ([], s)
      | some (c, rest) =>
        let (cs, rest) ← readBasicChars turns rest
        return (c :: cs, rest)
    | c :: rest =>
      if c = '"' ∨ isControl c then .ok ([], s)
      else do
        let (cs, rest) ← readBasicChars turns rest
        return (c :: cs, rest)
    | [] => .ok ([], [])

def readBasicString (s : Input) : Except Trouble (String × Input) := do
  let s ← readChar '"' s
  let (cs, s) ← readBasicChars (s.length + 1) s
  let s ← labelled "basic string" (must (readChar '"' s))
  return (String.ofList cs, s)

def readLiteralString (s : Input) : Except Trouble (String × Input) := do
  let s ← readChar '\'' s
  let inside (c : Char) : Bool := c != '\'' && !isControl c
  let rest ← labelled "literal string" (must (readChar '\'' (s.dropWhile inside)))
  return (String.ofList (s.takeWhile inside), rest)

/-- Passes over the white space after a backslash at a line's end, if the backslash ends a line. -/
def skipEscapedLineEnd? (s : Input) : Option Input :=
  match lineEnd? (skipSpaces s) with
  | some rest => some (skipBlankLines (rest.length + 1) rest)
  | none => none

/-- Reads a character of a string over lines, if one stands here: a line end, an escape, which may
be one of a line end and then stands for nothing, or a character other than the quote. -/
def readLinesChar (quote : Char) (escaped : Bool) (s : Input) :
    Except Trouble (Option (List Char × Input)) :=
  match s with
  | [] => .ok none
  | c :: rest =>
    if c = quote then .ok none
    else if c = '\\' ∧ escaped then
      match skipEscapedLineEnd? rest with
      | some rest => .ok (some ([], rest))
      | none => attempt ((readEscape rest).map fun (e, rest) => ([e], rest))
    else match lineEnd? s with
      | some rest => .ok (some (['\n'], rest))
      | none => if isControl c then .ok none else .ok (some ([c], rest))

/-- Reads the characters of a string over lines up to three quotes of the given kind, of which up to
five may stand at the end. One or two quotes inside belong to the string only if another character
of it follows, and an escape that cannot be read there is found in front of its backslash. -/
def readLinesChars (quote : Char) (escaped : Bool) : (turns : Nat) → Reader (List Char)
  | 0, s => .ok ([], s)
  | turns + 1, s =>
    let go (cs : List Char) : Option (List Char × Input) → Except Trouble (List Char × Input)
      | none => .ok ([], s)
      | some (ds, rest) => do
        let (es, rest) ← readLinesChars quote escaped turns rest
        return (cs ++ ds ++ es, rest)
    let quotes := s.takeWhile (· == quote)
    let after := s.drop quotes.length
    if quotes = [] then readLinesChar quote escaped s >>= go []
    else if quotes.length < 3 then
      stoppedAt after (readLinesChar quote escaped after) >>= go quotes
    else
      let inside := min (quotes.length - 3) 2
      .ok (quotes.take inside, s.drop inside)

/-- Reads a string over lines. -/
def readLinesString (quote : Char) (escaped : Bool) (label : String) (s : Input) :
    Except Trouble (String × Input) :=
  labelled label do
    let delimiter := [quote, quote, quote]
    let s ← readAll delimiter s
    let s := (lineEnd? s).getD s
    let (cs, s) ← must (readLinesChars quote escaped (s.length + 1) s)
    let s ← must (readAll delimiter s)
    return (String.ofList cs, s)

/-- Reads a string of any kind. -/
def readString (s : Input) : Except Trouble (String × Input) :=
  match s with
  | '"' :: _ =>
    orElse (readLinesString '"' true "multiline basic string" s) fun () => readBasicString s
  | _ =>
    orElse (readLinesString '\'' false "multiline literal string" s) fun () => readLiteralString s

end SubscriberContract.Toml
