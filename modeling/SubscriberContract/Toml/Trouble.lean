/-!
# Troubles of reading TOML

A reader that fails tells what it was reading, what it expected, and how far it got. A failure is
final once a reader had to be the right one; otherwise another reader may be tried.
-/

namespace SubscriberContract.Toml

/-- What is wrong beyond the shape of the text. -/
inductive Reason
  | duplicateKey (key : String)
  /-- The table is given by the keys on the way to it. -/
  | duplicateKeyIn (key : String) (table : List String)
  | extendsValue (key : List String) (kind : String)
  | outOfRange
  | tooLarge
  | tooSmall
  | tooDeep
deriving DecidableEq, Repr

abbrev Input := List Char

structure Trouble where
  /-- What was being read, by the innermost reader that has a name. -/
  label : Option String
  expected : List String
  reason : Option Reason
  final : Bool
  /-- The text in front of which reading stopped. -/
  rest : Input
deriving DecidableEq, Repr

def Reason.describe : Reason → String
  | .duplicateKey key => s!"duplicate key `{key}`"
  | .duplicateKeyIn key [] => s!"duplicate key `{key}` in document root"
  | .duplicateKeyIn key table =>
    let path := ".".intercalate table
    s!"duplicate key `{key}` in table `{path}`"
  | .extendsValue key kind =>
    let path := ".".intercalate key
    s!"dotted key `{path}` attempted to extend non-table type ({kind})"
  | .outOfRange => "value is out of range"
  | .tooLarge => "number too large to fit in target type"
  | .tooSmall => "number too small to fit in target type"
  | .tooDeep => "recursion limit exceeded"

def Trouble.describe (t : Trouble) : String :=
  let what := t.label.toList.map fun l => s!"invalid {l}"
  let expected := if t.expected = [] then [] else ["expected " ++ ", ".intercalate t.expected]
  "\n".intercalate (what ++ expected ++ t.reason.toList.map Reason.describe)

/-- Reads a value from the front of the text and gives what is left of it. -/
abbrev Reader (α : Type) := Input → Except Trouble (α × Input)

/-- A failure in front of `rest`, after which another reader may be tried. -/
def fail {α : Type} (rest : Input) : Except Trouble α := .error ⟨none, [], none, false, rest⟩

def failFor {α : Type} (reason : Reason) (rest : Input) : Except Trouble α :=
  .error ⟨none, [], some reason, false, rest⟩

/-- What was read from `start` on is refused as a whole. -/
def refusedAt {α : Type} (start : Input) : Except Reason α → Except Trouble α
  | .ok a => .ok a
  | .error reason => failFor reason start

/-- Makes failures final. -/
def must {α : Type} (r : Except Trouble α) : Except Trouble α :=
  r.mapError fun t => { t with final := true }

/-- Names what was being read, unless an inner reader did. -/
def labelled {α : Type} (label : String) (r : Except Trouble α) : Except Trouble α :=
  r.mapError fun t => { t with label := t.label <|> some label }

/-- Adds what was expected. -/
def expecting {α : Type} (what : List String) (r : Except Trouble α) : Except Trouble α :=
  r.mapError fun t => { t with expected := t.expected ++ what }

/-- Lets failures stand in front of `rest`, wherever reading stopped. -/
def stoppedAt {α : Type} (rest : Input) (r : Except Trouble α) : Except Trouble α :=
  r.mapError fun t => { t with rest }

/-- The second reading, if the first failed and not finally. -/
def orElse {α : Type} (first : Except Trouble α) (second : Unit → Except Trouble α) :
    Except Trouble α :=
  match first with
  | .ok a => .ok a
  | .error t => if t.final then .error t else second ()

/-- A reading that may fail without harm, unless finally. -/
def attempt {α : Type} (r : Except Trouble α) : Except Trouble (Option α) :=
  orElse (r.map some) fun () => .ok none

/-- Reads one given character. -/
def readChar (c : Char) : Input → Except Trouble Input
  | d :: s => if c = d then .ok s else fail (d :: s)
  | [] => fail []

/-- Reads a given text. -/
def readAll (text : List Char) (s : Input) : Except Trouble Input :=
  if text.isPrefixOf s then .ok (s.drop text.length) else fail s

end SubscriberContract.Toml
