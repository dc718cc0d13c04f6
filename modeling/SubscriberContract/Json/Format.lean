import SubscriberContract.Json.Members

/-!
# Formats

The readers and trees of words, texts, choices, options, lists and records. A reader stops at the
first fault it meets. Faults of the text come before mismatches of a value that ends later.
-/

namespace SubscriberContract.Json

/-- Reads a value that does not fit, as far as its kind is seen, and gives the mismatch. -/
def wrongType {α : Type} (expected : String) (s : Input) : Except Failure α :=
  match s with
  | '[' :: s => mismatch (.wrongType .sequence expected) ('[' :: s) |> placed
  | '\x7b' :: s => mismatch (.wrongType .map expected) ('\x7b' :: s) |> placed
  | s =>
    match readScalar s with
    | .error f => .error f
    | .ok (j, s) => mismatch (.wrongType j.found expected) s |> placed

/-- Reads what follows white space; the text may not end there. -/
def afterSpaces {α : Type} (read : Reader α) : Reader α := fun s =>
  match skipSpaces s with
  | [] => cut .value
  | s => read s

namespace Format

/-- A number from a text, if it is an unsigned 32-bit word. -/
def wordOf (n : Number) : Except Mismatch UInt32 :=
  match n with
  | .natural n =>
    if n < UInt32.size then .ok n.toUInt32 else .error (.wrongValue (.integer n) "u32")
  | .negative n => .error (.wrongValue (.integer (-n)) "u32")
  | .floating bits => .error (.wrongType (.floating bits) "u32")

def readWordOf (negative : Bool) (s : Input) : Except Failure (UInt32 × Input) :=
  match readNumeral negative s with
  | .error f => .error f
  | .ok (n, s) =>
    match wordOf n with
    | .error m => placed (mismatch m s)
    | .ok w => .ok (w, s)

/-- An unsigned 32-bit word. -/
def word : Format UInt32 where
  read _ := afterSpaces fun s =>
    match s with
    | '-' :: s => readWordOf true s
    | [] => cut .value
    | c :: s => if isDigit c then readWordOf false (c :: s) else wrongType "u32" (c :: s)
  tree w := .natural w.toNat

/-- Reads a text and what it stands for. -/
def readParsed {α : Type} (expected : String) (parse : String → Except Mismatch α) : Reader α :=
  afterSpaces fun s =>
    match s with
    | '"' :: s =>
      match readText s with
      | .error f => .error f
      | .ok (t, s) =>
        match parse t with
        | .error m => placed (mismatch m s)
        | .ok a => .ok (a, s)
    | s => wrongType expected s

def text : Format String where
  read _ := readParsed "a string" .ok
  tree t := .text t

/-- A value written as a text that has to be parsed. A text that does not parse gets its place from
the value around it. -/
def parsed {α : Type} (parse : String → Except Mismatch α) (print : α → String) : Format α where
  read room s :=
    match text.read room s with
    | .error f => .error f
    | .ok (t, s) =>
      match parse t with
      | .error m => mismatch m s
      | .ok a => .ok (a, s)
  tree a := .text (print a)

/-- Finds a variant by its name. -/
def variant {α : Type} (all : List α) (name : α → String) (t : String) : Except Mismatch α :=
  match all.find? (name · == t) with
  | some a => .ok a
  | none => .error (.unknownVariant t (all.map name))

/-- Reads a null. -/
def readNull : Reader Unit := afterSpaces fun s =>
  match s with
  | 'n' :: s => (readKeyword ['u', 'l', 'l'] s).map ((), ·)
  | s => wrongType "unit" s

/-- The value written as an object with one member: the variant's name, and null. -/
def readKeyed {α : Type} (all : List α) (name : α → String) : Reader α := fun s =>
  match skipSpaces s with
  | [] => cut .object
  | '"' :: s =>
    match readParsed "variant identifier" (variant all name) ('"' :: s) with
    | .error f => .error f
    | .ok (a, s) => do
      let s ← readColon s
      let ((), s) ← readNull s
      match skipSpaces s with
      | [] => cut .object
      | '\x7d' :: s => .ok (a, s)
      | s => stopBefore .expectedValue s
  | '\x7d' :: s => stopAt .expectedValue ('\x7d' :: s)
  | s => stopAt .keyNotText s

/-- One of finitely many variants, by name. -/
def choice {α : Type} (all : List α) (name : α → String) : Format α where
  read room := afterSpaces fun s =>
    match s, room with
    | '\x7b' :: s, 0 => stopAt .tooDeep ('\x7b' :: s)
    | '\x7b' :: s, _ + 1 => readKeyed all name s
    | '"' :: s, _ => readParsed "variant identifier" (variant all name) ('"' :: s)
    | s, _ => stopAt .expectedValue s
  tree a := .text (name a)

/-- A value or null. -/
def optional {α : Type} (item : Format α) : Format (Option α) where
  read room s :=
    match skipSpaces s with
    | 'n' :: s => (readKeyword ['u', 'l', 'l'] s).map (none, ·)
    | s => (item.read room s).map fun (a, s) => (some a, s)
  tree
    | none => .null
    | some a => item.tree a

def list {α : Type} (item : Format α) : Format (List α) where
  read room := afterSpaces fun s =>
    match s, room with
    | '[' :: s, 0 => stopAt .tooDeep ('[' :: s)
    | '[' :: s, room + 1 => inList (readItems (item.read room) true) s
    | s, _ => wrongType "a sequence" s
  tree as := .array (as.map item.tree)

/-- A record called `title`: an object, or an array of its values in declaration order. -/
def record {α σ ρ : Type} (title : String) (ms : Members Format σ ρ) (build : σ → α)
    (values : α → σ) : Format α where
  read room := afterSpaces fun s =>
    let inside : Except Failure (σ × Input) := match s, room with
      | '[' :: s, 0 => stopAt .tooDeep ('[' :: s)
      | '\x7b' :: s, 0 => stopAt .tooDeep ('\x7b' :: s)
      | '[' :: s, room + 1 =>
        inList (ms.readInOrder s!"struct {title} with {ms.countText}" room 0) s
      | '\x7b' :: s, room + 1 => inObject (ms.readObject room) s
      | s, _ => wrongType s!"struct {title}" s
    inside.map fun (v, s) => (build v, s)
  tree a := .object (ms.trees (values a))

end Format

/-- Reads the whole of a text as one value. -/
def Format.decode {α : Type} (f : Format α) (text : String) : Except Failure α :=
  readWhole (f.read maxDepth) text

/-- The compact text of a value. -/
def Format.encode {α : Type} (f : Format α) (a : α) : String := (f.tree a).compact

end SubscriberContract.Json
