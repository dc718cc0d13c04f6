import SubscriberContract.Json.Format

/-!
# Tagged unions

A value of a tagged union is an object in which one member, the tag, names the variant and the
others belong to the variant. The tag may stand anywhere, so the other members are kept as trees
until all were read. The union may also be an array with the tag first.
-/

namespace SubscriberContract.Json

/-- A tagged union: the member that holds the tag, what a value is called, the variants' names, and
how a variant is read from what stands beside the tag. -/
structure Tagged (α : Type) where
  tag : String
  title : String
  variants : List String
  build : (variant : String) → FromTree α

namespace Tagged

variable {α : Type}

def expected (u : Tagged α) : String := s!"internally tagged enum {u.title}"

def variant (u : Tagged α) (name : String) : Except Mismatch String :=
  Format.variant u.variants id name

/-! ## From a tree -/

/-- A tag inside a kept tree; there a variant may also be given by its number. -/
def tagOf (u : Tagged α) : FromTree String
  | .text name => u.variant name
  | .number (.natural n) =>
    match u.variants[n]? with
    | some name => .ok name
    | none => .error (.wrongValue (.integer n) s!"variant index 0 <= i < {u.variants.length}")
  | j => .error (.wrongType j.found "variant identifier")

/-- Takes the tag out of the members, which are given first to last. -/
def splitMembers (u : Tagged α) :
    (tag : Option String) → List (String × Json) → Except Mismatch (String × List (String × Json))
  | none, [] => .error (.missingMember u.tag)
  | some t, [] => .ok (t, [])
  | tag, (key, value) :: rest =>
    if key = u.tag then
      match tag with
      | some _ => .error (.repeatedMember u.tag)
      | none => do u.splitMembers (some (← u.tagOf value)) rest
    else do
      let (t, others) ← u.splitMembers tag rest
      return (t, (key, value) :: others)

/-- The variant that a tree names, and the tree of what stands beside the tag. -/
def split (u : Tagged α) : FromTree (String × Json)
  | .object members => do
    let (t, others) ← u.splitMembers none members
    return (t, .object others)
  | .array [] => .error (.missingMember u.tag)
  | .array (t :: items) => do return (← u.tagOf t, .array items)
  | j => .error (.wrongType j.found u.expected)

/-! ## From a text -/

def readTag (u : Tagged α) : Reader String :=
  Format.readParsed "variant identifier" u.variant

/-- Reads one member: the tag, or another one, which is kept. -/
def readMember (u : Tagged α) (room : Nat) (name : String)
    (state : Option String × List (String × Json)) :
    Reader (Option String × List (String × Json)) := fun s =>
  if name = u.tag then
    if state.1.isSome then mismatch (.repeatedMember u.tag) s
    else match readColon s with
      | .error f => .error f
      | .ok s => (u.readTag s).map fun (t, s) => ((some t, state.2), s)
  else (readTreeMember (readTree room) name state.2 s).map fun (kept, s) => ((state.1, kept), s)

def readObject (u : Tagged α) (room : Nat) : Reader (String × Json) := fun s =>
  match readMembers (u.readMember room) (none, []) s with
  | .error f => .error f
  | .ok ((none, _), s) => mismatch (.missingMember u.tag) s
  | .ok ((some t, kept), s) => .ok ((t, .object kept.reverse), s)

def readArray (u : Tagged α) (room : Nat) : Reader (String × Json) := fun s =>
  match nextItem? true s with
  | .error f => .error f
  | .ok none => mismatch (.missingMember u.tag) (skipSpaces s)
  | .ok (some s) =>
    match u.readTag s with
    | .error f => .error f
    | .ok (t, s) =>
      (readItems (readTree room) false s).map fun (items, s) => ((t, .array items), s)

/-- Reads the variant and what stands beside the tag. -/
def readSplit (u : Tagged α) (room : Nat) : Reader (String × Json) := afterSpaces fun s =>
  match s, room with
  | '[' :: s, 0 => stopAt .tooDeep ('[' :: s)
  | '\x7b' :: s, 0 => stopAt .tooDeep ('\x7b' :: s)
  | '[' :: s, room + 1 => inList (u.readArray room) s
  | '\x7b' :: s, room + 1 => inObject (u.readObject room) s
  | s, _ =>
    match readScalar s with
    | .error f => .error f
    | .ok (j, s) => placed (mismatch (.wrongType j.found u.expected) s)

/-- The format of a tagged union. A variant that does not fit gets its place from the value around
the union. -/
def format (u : Tagged α) (tree : α → Json) : Format α where
  read room s :=
    match u.readSplit room s with
    | .error f => .error f
    | .ok ((t, beside), s) =>
      match u.build t beside with
      | .error m => mismatch m s
      | .ok a => .ok (a, s)
  tree := tree

end Tagged
end SubscriberContract.Json
