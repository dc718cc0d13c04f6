import SubscriberContract.Toml.Quotation
import SubscriberContract.Toml.Value

/-!
# TOML numbers and dates

A number begins with a sign or a digit. A date is tried first, then a floating-point number, then an
integer. Digits may be separated by single underscores.
-/

namespace SubscriberContract.Toml

def isDigit (c : Char) : Bool := '0' ≤ c && c ≤ '9'

/-- Reads one character of a class. -/
def readOne (p : Char → Bool) : Reader Char
  | c :: s => if p c then .ok (c, s) else fail (c :: s)
  | [] => fail []

/-- Reads exactly so many digits. -/
def readDigits (count : Nat) (s : Input) : Except Trouble (Nat × Input) :=
  let digits := (s.take count).takeWhile isDigit
  if digits.length < count then fail s else .ok (ofDigits 10 digits, s.drop count)

/-! ## Dates -/

/-- Reads two digits that make a number in a range. -/
def readTwoDigits (low high : Nat) (s : Input) : Except Trouble Input := do
  let (n, rest) ← readDigits 2 s
  if low ≤ n ∧ n ≤ high then return rest else failFor .outOfRange s

def daysIn (year month : Nat) : Nat :=
  if month = 2 then
    if year % 4 = 0 ∧ (year % 100 ≠ 0 ∨ year % 400 = 0) then 29 else 28
  else if [4, 6, 9, 11].contains month then 30
  else 31

def readDate (s : Input) : Except Trouble Input := do
  let (year, s) ← readDigits 4 s
  let s ← readChar '-' s
  must do
    let month := ofDigits 10 (s.take 2)
    let s ← readTwoDigits 1 12 s
    let s ← readChar '-' s
    let day := ofDigits 10 (s.take 2)
    let rest ← readTwoDigits 1 31 s
    if daysIn year month < day then failFor .outOfRange s else return rest

def readFractionOfSecond : Input → Except Trouble Input
  | '.' :: s =>
    if (s.takeWhile isDigit) = [] then fail s else .ok (s.dropWhile isDigit)
  | s => fail s

def readTime (s : Input) : Except Trouble Input := do
  let s ← readTwoDigits 0 23 s
  let s ← readChar ':' s
  must do
    let s ← readTwoDigits 0 59 s
    let s ← readChar ':' s
    let s ← readTwoDigits 0 60 s
    return (← attempt (readFractionOfSecond s)).getD s

def readOffset (s : Input) : Except Trouble Input :=
  labelled "time offset" do
    match s with
    | 'Z' :: s | 'z' :: s => return s
    | '+' :: s | '-' :: s => must do
      let s ← readTwoDigits 0 23 s
      let s ← readChar ':' s
      readTwoDigits 0 59 s
    | s => fail s

def readTimeOfDate (s : Input) : Except Trouble Input := do
  let (_, s) ← readOne (fun c => c == 'T' || c == 't' || c == ' ') s
  let s ← readTime s
  return (← attempt (readOffset s)).getD s

def readDateTime (s : Input) : Except Trouble (Value × Input) :=
  orElse
    (labelled "date-time" do
      let s ← readDate s
      return (.dateTime, (← attempt (readTimeOfDate s)).getD s))
    fun () => labelled "time" do return (.dateTime, ← readTime s)

/-! ## Numbers -/

/-- Reads the digits after a first one: digits, and underscores that a digit follows. -/
def readMoreDigits (p : Char → Bool) : (turns : Nat) → Reader (List Char)
  | 0, s => .ok ([], s)
  | turns + 1, s =>
    match s with
    | '_' :: s => do
      let (d, s) ← expecting ["digit"] (must (readOne p s))
      let (ds, s) ← readMoreDigits p turns s
      return (d :: ds, s)
    | c :: rest =>
      if p c then do
        let (ds, s) ← readMoreDigits p turns rest
        return (c :: ds, s)
      else .ok ([], s)
    | [] => .ok ([], [])

/-- Reads digits separated by underscores. -/
def readSeparated (p : Char → Bool) (s : Input) : Except Trouble (List Char × Input) := do
  let (d, s) ← readOne p s
  let (ds, s) ← readMoreDigits p s.length s
  return (d :: ds, s)

/-- Reads a sign, if there is one. -/
def readSign : Input → Bool × Input
  | '+' :: s => (false, s)
  | '-' :: s => (true, s)
  | s => (false, s)

/-- Reads the sign and the digits of a decimal integer; nothing follows a leading zero. -/
def readDecimal (s : Input) : Except Trouble ((Bool × List Char) × Input) :=
  labelled "integer" do
    let (negative, s) := readSign s
    match s with
    | '0' :: s => return ((negative, ['0']), s)
    | s =>
      let (ds, s) ← readSeparated isDigit s
      return ((negative, ds), s)

/-- Reads an integer in another base, with its mark of two characters. -/
def readInBase (label : String) (base : Nat) (p : Char → Bool) (s : Input) :
    Except Trouble (Value × Input) := do
  let (ds, rest) ← labelled label (must (readSeparated p (s.drop 2)))
  let n := ofDigits base ds
  if Nat.pow 2 63 ≤ n then must (failFor .tooLarge s) else return (.integer n, rest)

def readInteger (s : Input) : Except Trouble (Value × Input) :=
  match s with
  | '0' :: 'x' :: _ => readInBase "hexadecimal integer" 16 isHexDigit s
  | '0' :: 'o' :: _ => readInBase "octal integer" 8 (fun c => '0' ≤ c && c ≤ '7') s
  | '0' :: 'b' :: _ => readInBase "binary integer" 2 (fun c => c == '0' || c == '1') s
  | s => do
    let ((negative, ds), rest) ← readDecimal s
    let n := ofDigits 10 ds
    if negative then
      if Nat.pow 2 63 < n then must (failFor .tooSmall s) else return (.integer (-n), rest)
    else if Nat.pow 2 63 ≤ n then must (failFor .tooLarge s)
    else return (.integer n, rest)

/-- Reads an exponent: whether it is negative, and its digits. -/
def readExponent (s : Input) : Except Trouble ((Bool × List Char) × Input) := do
  let (_, s) ← readOne (fun c => c == 'e' || c == 'E') s
  let (negative, s) := readSign s
  let (ds, s) ← must (readSeparated isDigit s)
  return ((negative, ds), s)

/-- The exponent after which no number with so many digits is in range. -/
def exponentBound (digits : Nat) : Nat := digits + 400

/-- The binary64 number nearest to digits with a point before the last `places` of them, times a
power of ten. -/
def nearestFloat (negative : Bool) (digits : List Char) (places : Nat) (exponent : Int) : Float :=
  let bound : Int := exponentBound digits.length
  let e := max (-bound) (min bound (exponent - places))
  let f := Float.ofScientific (ofDigits 10 digits) (e < 0) e.natAbs
  if negative then -f else f

/-- Reads a fraction or exponent after the whole part: the digits of the fraction and the
exponent. -/
def readFloatTail (s : Input) : Except Trouble ((List Char × Int) × Input) := do
  let exponentOf (e : Bool × List Char) : Int :=
    let n : Int := ofDigits 10 e.2
    if e.1 then -n else n
  orElse
    (do
      let (e, s) ← readExponent s
      return (([], exponentOf e), s))
    fun () => do
      let s ← readChar '.' s
      let (ds, s) ← expecting ["digit"] (must (readSeparated isDigit s))
      match ← attempt (readExponent s) with
      | some (e, s) => return ((ds, exponentOf e), s)
      | none => return ((ds, 0), s)

def infinity : Float := 1.0 / 0.0

def notANumber : Float := 0.0 / 0.0

/-- Reads an infinity or a number that is none, after its sign. -/
def readSpecial (negative : Bool) (s : Input) : Except Trouble (Value × Input) :=
  let value (f : Float) : Value := .floating (if negative then -f else f).toBits
  orElse (do return (value infinity, ← readAll ['i', 'n', 'f'] s))
    fun () => do return (value notANumber, ← readAll ['n', 'a', 'n'] s)

def readFloat (s : Input) : Except Trouble (Value × Input) :=
  labelled "floating-point number" <|
    orElse
      (do
        let ((negative, ds), rest) ← readDecimal s
        let ((fraction, exponent), rest) ← readFloatTail rest
        let f := nearestFloat negative (ds ++ fraction) fraction.length exponent
        if f == infinity then must (fail s) else return (.floating f.toBits, rest))
      fun () =>
        let (negative, s) := readSign s
        readSpecial negative s

/-- Reads a number or a date. -/
def readNumber (s : Input) : Except Trouble (Value × Input) :=
  orElse (readDateTime s) fun () => orElse (readFloat s) fun () => readInteger s

end SubscriberContract.Toml
