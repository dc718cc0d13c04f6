import SubscriberContract.Json.Skip
import SubscriberContract.Json.Tree

/-!
# The members of a record

A record is described by its members in declaration order: names, how their values are read, and
what stands for an absent one. `σ` is the type of all values together and `ρ` that of the values
read so far. `F` says how a value is read: from a text (`Format`) or from a tree.
-/

namespace SubscriberContract.Json

inductive Members (F : Type → Type) : Type → Type → Type 1
  | done : Members F Unit Unit
  /-- `absent` stands for a member that an object leaves out, `short` for one that an array of the
  values in declaration order ends before. -/
  | member {α σ ρ : Type} (name : String) (format : F α) (absent short : Option α)
      (rest : Members F σ ρ) : Members F (α × σ) (Option α × ρ)

namespace Members

variable {F : Type → Type} {σ ρ α : Type}

/-- A member that may not be left out. -/
def required (name : String) (format : F α) (rest : Members F σ ρ) :
    Members F (α × σ) (Option α × ρ) :=
  .member name format none none rest

/-- A member with a value that stands for an absent one. -/
def defaulted (name : String) (format : F α) (value : α) (rest : Members F σ ρ) :
    Members F (α × σ) (Option α × ρ) :=
  .member name format (some value) (some value) rest

/-- A member that an object may leave out, but an array not. -/
def nullable (name : String) (format : F (Option α)) (rest : Members F σ ρ) :
    Members F (Option α × σ) (Option (Option α) × ρ) :=
  .member name format (some none) none rest

def names {σ ρ : Type} : Members F σ ρ → List String
  | .done => []
  | .member name _ _ _ rest => name :: rest.names

def count (ms : Members F σ ρ) : Nat := ms.names.length

/-- No value read yet. -/
def start {σ ρ : Type} : Members F σ ρ → ρ
  | .done => ()
  | .member _ _ _ _ rest => (none, rest.start)

/-- All values, once an object has ended. -/
def complete {σ ρ : Type} : Members F σ ρ → ρ → Except Mismatch σ
  | .done, () => .ok ()
  | .member name _ absent _ rest, (read, others) =>
    match read <|> absent with
    | none => .error (.missingMember name)
    | some a => (rest.complete others).map fun values => (a, values)

/-- The number of members in words. -/
def countText (ms : Members F σ ρ) : String :=
  if ms.count = 1 then "1 element" else s!"{ms.count} elements"

end Members

/-! ## From a tree -/

/-- Reads a value from a tree. -/
abbrev FromTree (α : Type) := Json → Except Mismatch α

namespace Members

variable {σ ρ : Type}

/-- Reads the value of one member of an object; unknown members are passed over. -/
def putTree {σ ρ : Type} : Members FromTree σ ρ → String → Json → ρ → Except Mismatch ρ
  | .done, _, _, () => .ok ()
  | .member name format _ _ rest, key, value, (read, others) =>
    if key = name then
      if read.isSome then .error (.repeatedMember name)
      else (format value).map fun a => (some a, others)
    else (rest.putTree key value others).map fun others => (read, others)

/-- Reads the values of an array in declaration order, from the one with number `index` on. -/
def ofItems {σ ρ : Type} (expected : String) :
    Members FromTree σ ρ → (index : Nat) → List Json → Except Mismatch (σ × List Json)
  | .done, _, items => .ok ((), items)
  | .member _ _ _ short rest, index, [] =>
    match short with
    | none => .error (.wrongLength index expected)
    | some a => (rest.ofItems expected (index + 1) []).map fun (values, items) =>
      ((a, values), items)
  | .member _ format _ _ rest, index, item :: items => do
    let a ← format item
    let (values, items) ← rest.ofItems expected (index + 1) items
    return ((a, values), items)

/-- Reads a record called `title` from an object, or from an array of its values. -/
def ofTree (ms : Members FromTree σ ρ) (title : String) : FromTree σ
  | .object members => do
    ms.complete (← members.foldlM (fun read (key, value) => ms.putTree key value read) ms.start)
  | .array items => do
    let (values, left) ← ms.ofItems s!"{title} with {ms.countText}" 0 items
    if left = [] then return values
    else .error (.wrongLength items.length s!"{ms.countText} in sequence")
  | j => .error (.wrongType j.found title)

end Members

/-! ## From a text -/

/-- How values of a type stand in JSON: a reader, which is told how much room there is for nesting,
and the tree of a value. -/
structure Format (α : Type) where
  read : (room : Nat) → Reader α
  tree : α → Json

namespace Members

variable {σ ρ : Type}

/-- Reads the value of one member of an object from after its name; the value of an unknown member
is passed over. -/
def put {σ ρ : Type} : Members Format σ ρ → (room : Nat) → String → ρ → Reader ρ
  | .done, _, _, (), s =>
    match readColon s with
    | .error f => .error f
    | .ok s => (skipValue s).map ((), ·)
  | .member name format _ _ rest, room, key, (read, others), s =>
    if key = name then
      if read.isSome then mismatch (.repeatedMember name) s
      else match readColon s with
        | .error f => .error f
        | .ok s => (format.read room s).map fun (a, s) => ((some a, others), s)
    else (rest.put room key others s).map fun (others, s) => ((read, others), s)

/-- Reads the values of an array in declaration order, from the one with number `index` on. -/
def readInOrder {σ ρ : Type} (expected : String) :
    Members Format σ ρ → (room index : Nat) → Reader σ
  | .done, _, _, s => .ok ((), s)
  | .member _ format _ short rest, room, index, s =>
    match nextItem? (index = 0) s with
    | .error f => .error f
    | .ok none =>
      match short with
      | none => mismatch (.wrongLength index expected) (skipSpaces s)
      | some a => (rest.readInOrder expected room (index + 1) s).map fun (values, s) =>
        ((a, values), s)
    | .ok (some s) =>
      match format.read room s with
      | .error f => .error f
      | .ok (a, s) => (rest.readInOrder expected room (index + 1) s).map fun (values, s) =>
        ((a, values), s)

/-- The members of a value's tree. -/
def trees {σ ρ : Type} : Members Format σ ρ → σ → List (String × Json)
  | .done, () => []
  | .member name format _ _ rest, (a, values) => (name, format.tree a) :: rest.trees values

/-- Reads the inside of an object. -/
def readObject (ms : Members Format σ ρ) (room : Nat) : Reader σ := fun s =>
  match readMembers (ms.put room) ms.start s with
  | .error f => .error f
  | .ok (read, s) =>
    match ms.complete read with
    | .error m => mismatch m s
    | .ok values => .ok (values, s)

end Members
end SubscriberContract.Json
