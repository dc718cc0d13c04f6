import SubscriberContract.Toml.Numeral

/-!
# Reading TOML keys and values

Arrays and inline tables nest to a bounded depth; `room` is how many more may be opened.
-/

namespace SubscriberContract.Toml

/-- How deeply arrays and inline tables may nest, and how long a dotted key may be. -/
def maxDepth : Nat := 79

/-! ## Keys -/

def isBareKeyChar (c : Char) : Bool := c.isAlphanum || c == '-' || c == '_'

/-- Reads a quoted or bare key. -/
def readKeyName (s : Input) : Except Trouble (String × Input) :=
  match s with
  | '"' :: _ => readBasicString s
  | '\'' :: _ => readLiteralString s
  | s =>
    match s.takeWhile isBareKeyChar with
    | [] => fail s
    | cs => .ok (String.ofList cs, s.drop cs.length)

/-- Reads a key with the white space around it. -/
def readSpacedKey (s : Input) : Except Trouble (Key × Input) := do
  let s := skipSpaces s
  let (name, rest) ← readKeyName s
  return (⟨name, ⟨s, rest⟩⟩, skipSpaces rest)

/-- Reads the keys after a first one, each after a dot; a dot without a key is left. -/
def readMoreKeys : (turns : Nat) → Reader (List Key)
  | 0, s => .ok ([], s)
  | turns + 1, s =>
    match s with
    | '.' :: rest => do
      match ← attempt (readSpacedKey rest) with
      | none => return ([], s)
      | some (key, rest) =>
        let (keys, rest) ← readMoreKeys turns rest
        return (key :: keys, rest)
    | s => .ok ([], s)

/-- Reads a dotted key: the keys on the way, and the last one. -/
def readKey (s : Input) : Except Trouble ((List Key × Key) × Input) := do
  let ((first, more), rest) ← labelled "key" do
    let (first, s) ← readSpacedKey s
    let (more, s) ← readMoreKeys s.length s
    return ((first, more), s)
  if maxDepth < more.length + 1 then failFor .tooDeep s
  else return (((first :: more).dropLast, more.getLastD first), rest)

/-- Reads the equals sign after a key. -/
def readEquals (s : Input) : Except Trouble Input :=
  expecting ["`.`", "`=`"] (must (readChar '=' s))

/-! ## Values -/

/-- Reads items separated by commas. An item that cannot be read ends the list before its comma. -/
def readSeparatedItems {α : Type} (item : Reader α) : (turns : Nat) → Reader (List α)
  | 0, s => .ok ([], s)
  | turns + 1, s => do
    match ← attempt (item s) with
    | none => return ([], s)
    | some (a, rest) =>
      match rest with
      | ',' :: next =>
        let (as, left) ← readSeparatedItems item turns next
        return (a :: as, if as.isEmpty then rest else left)
      | rest => return ([a], rest)

/-- Reads the items of an array from after its opening bracket. -/
def readItems (value : Reader LocatedValue) (s : Input) :
    Except Trouble (List LocatedValue × Input) :=
  match s with
  | ']' :: _ => .ok ([], s)
  | s => do
    let item (s : Input) : Except Trouble (LocatedValue × Input) := do
      let s ← skipTrivia (s.length + 1) s
      let (v, s) ← value s
      return (v, ← skipTrivia (s.length + 1) s)
    let (items, s) ← readSeparatedItems item (s.length + 1) s
    let s := match items, s with
      | _ :: _, ',' :: rest => rest
      | _, s => s
    return (items, ← skipTrivia (s.length + 1) s)

/-- Reads an array from after its opening bracket. -/
def readArray (value : Reader LocatedValue) (s : Input) : Except Trouble (Value × Input) := do
  let (items, s) ← must (readItems value s)
  let s ← expecting ["`]`"] (labelled "array" (must (readChar ']' s)))
  return (.array items, s)

/-- Enters a value into an inline table under a dotted key. `passed` are the keys on the way so far,
the last first. -/
def enterInline (last : Key) (value : LocatedValue) :
    (passed : List String) → (path : List Key) → Entries → Except Reason Entries
  | _, [], entries =>
    match entries.valueOf? last.name with
    | none => .ok (entries ++ [(last, value)])
    | some _ => .error (.duplicateKey last.name)
  | passed, key :: path, entries =>
    match entries.valueOf? key.name with
    | none => do
      let inner ← enterInline last value (key.name :: passed) path []
      return entries ++ [(key, ⟨none, .inlineTable true inner⟩)]
    | some ⟨_, .inlineTable true inner⟩ => do
      let inner ← enterInline last value (key.name :: passed) path inner
      return entries.put key ⟨none, .inlineTable true inner⟩
    | some ⟨_, .inlineTable false _⟩ => .error (.duplicateKey key.name)
    | some ⟨_, v⟩ => .error (.extendsValue (key.name :: passed).reverse v.kind)

/-- Reads an inline table from after its opening brace. -/
def readInlineTable (value : Reader LocatedValue) (s : Input) : Except Trouble (Value × Input) := do
  let pair (s : Input) : Except Trouble (((List Key × Key) × LocatedValue) × Input) := do
    let (key, s) ← readKey s
    must do
      let s ← readEquals s
      let (v, s) ← value (skipSpaces s)
      return ((key, v), skipSpaces s)
  let (entries, s) ← must do
    let (pairs, rest) ← readSeparatedItems pair (s.length + 1) s
    let entries ← refusedAt s <| pairs.foldlM
      (fun entries ((path, last), v) => enterInline last v [] path entries) []
    return (entries, skipSpaces rest)
  let s ← expecting ["`\x7d`"] (labelled "inline table" (must (readChar '\x7d' s)))
  return (.inlineTable false entries, s)

/-- Reads one of the words that stand for a value. -/
def readWord (word : List Char) (value : Value) (s : Input) : Except Trouble (Value × Input) :=
  expecting ["`\"`", "`'`"] <| labelled "string" do return (value, ← readAll word s)

/-- Reads a value that is neither array nor table. Anything unknown passes for a string. -/
def readScalar (s : Input) : Except Trouble (Value × Input) :=
  match s with
  | [] => fail []
  | c :: _ =>
    match c with
    | '"' | '\'' => do
      let (t, s) ← readString s
      return (.text t, s)
    | 't' => must (readWord ['t', 'r', 'u', 'e'] (.boolean true) s)
    | 'f' => must (readWord ['f', 'a', 'l', 's', 'e'] (.boolean false) s)
    | 'i' => readWord ['i', 'n', 'f'] (.floating infinity.toBits) s
    | 'n' => readWord ['n', 'a', 'n'] (.floating notANumber.toBits) s
    | '_' => expecting ["leading digit"] (readInteger s)
    | '.' => expecting ["leading digit"] (readFloat s)
    | c =>
      if c = '+' ∨ c = '-' ∨ isDigit c then readNumber s
      else expecting ["`\"`", "`'`"] (labelled "string" (fail s))

/-- Reads a value. -/
def readValue (room : Nat) : Reader LocatedValue := fun s => do
  let (v, rest) ← match room, s with
    | 0, '[' :: _ | 0, '\x7b' :: _ => must (failFor .tooDeep s)
    | room + 1, '[' :: s => readArray (readValue room) s
    | room + 1, '\x7b' :: s => readInlineTable (readValue room) s
    | _, s => readScalar s
  return (⟨some ⟨s, rest⟩, v⟩, rest)

end SubscriberContract.Toml
