import SubscriberContract.Json.Scalar

/-!
# Separators

What stands between the items of an array and the members of an object, and what closes them. The
loops here run over any reader of items or members. Each turn takes at least one character, so the
length of the text bounds the turns.
-/

namespace SubscriberContract.Json

/-- Moves to the next item of an array; `none` stands in front of the closing bracket. -/
def nextItem? (first : Bool) (s : Input) : Except Failure (Option Input) :=
  match skipSpaces s with
  | [] => cut .list
  | ']' :: _ => .ok none
  | c :: rest =>
    if first then .ok (some (c :: rest))
    else if c = ',' then
      match skipSpaces rest with
      | [] => cut .value
      | ']' :: t => stopAt .trailingComma (']' :: t)
      | t => .ok (some t)
    else stopAt .expectedListEnd (c :: rest)

/-- Moves behind the quote that opens the next name; `none` stands in front of the closing brace. -/
def nextName? (first : Bool) (s : Input) : Except Failure (Option Input) :=
  match skipSpaces s with
  | [] => cut .object
  | '\x7d' :: _ => .ok none
  | c :: rest =>
    if first then
      if c = '"' then .ok (some rest) else stopAt .keyNotText (c :: rest)
    else if c = ',' then
      match skipSpaces rest with
      | [] => cut .value
      | '"' :: t => .ok (some t)
      | '\x7d' :: t => stopAt .trailingComma ('\x7d' :: t)
      | t => stopAt .keyNotText t
    else stopAt .expectedObjectEnd (c :: rest)

/-- Reads the colon after a name. -/
def readColon (s : Input) : Except Failure Input :=
  match skipSpaces s with
  | [] => cut .object
  | ':' :: rest => .ok rest
  | rest => stopAt .expectedColon rest

/-- Reads the end of an array. -/
def closeList (s : Input) : Except Failure Input :=
  match skipSpaces s with
  | [] => cut .list
  | ']' :: rest => .ok rest
  | ',' :: rest =>
    match skipSpaces rest with
    | ']' :: t => stopAt .trailingComma (']' :: t)
    | t => stopAt .trailingText t
  | rest => stopAt .trailingText rest

/-- Reads the end of an object. -/
def closeObject (s : Input) : Except Failure Input :=
  match skipSpaces s with
  | [] => cut .object
  | '\x7d' :: rest => .ok rest
  | ',' :: rest => stopAt .trailingComma (',' :: rest)
  | rest => stopAt .trailingText rest

/-- Where the reader stands when it leaves an array before its end was read. -/
def leaveList (s : Input) : Input :=
  match skipSpaces s with
  | ']' :: rest => rest
  | ',' :: rest => skipSpaces rest
  | rest => rest

/-- Where the reader stands when it leaves an object before its end was read. -/
def leaveObject (s : Input) : Input :=
  match skipSpaces s with
  | '\x7d' :: rest => rest
  | rest => rest

/-- Reads the inside of an array or object and then its end. A mismatch found inside gets its place
where the reader then leaves. -/
def enclosed {α : Type} (inside : Reader α) (close : Input → Except Failure Input)
    (leave : Input → Input) : Reader α := fun s =>
  match inside s with
  | .error f => .error (f.placeBefore (leave f.left))
  | .ok (a, s) =>
    match close s with
    | .error f => .error f
    | .ok s => .ok (a, s)

def inList {α : Type} (inside : Reader α) : Reader α := enclosed inside closeList leaveList

def inObject {α : Type} (inside : Reader α) : Reader α := enclosed inside closeObject leaveObject

/-- Reads items up to the closing bracket, in at most `turns` turns. -/
def readItemsIn {α : Type} (item : Reader α) : (turns : Nat) → (first : Bool) → Reader (List α)
  | 0, _, _ => cut .list
  | turns + 1, first, s =>
    match nextItem? first s with
    | .error f => .error f
    | .ok none => .ok ([], skipSpaces s)
    | .ok (some s) =>
      match item s with
      | .error f => .error f
      | .ok (a, s) =>
        match readItemsIn item turns false s with
        | .error f => .error f
        | .ok (as, s) => .ok (a :: as, s)

/-- Reads the items of an array, and leaves its closing bracket. -/
def readItems {α : Type} (item : Reader α) (first : Bool) : Reader (List α) := fun s =>
  readItemsIn item (s.length + 1) first s

/-- Reads members up to the closing brace, in at most `turns` turns. A turn is given the name and
the state so far, and reads from after the name. -/
def readMembersIn {σ : Type} (member : String → σ → Reader σ) :
    (turns : Nat) → (first : Bool) → σ → Reader σ
  | 0, _, _, _ => cut .object
  | turns + 1, first, state, s =>
    match nextName? first s with
    | .error f => .error f
    | .ok none => .ok (state, skipSpaces s)
    | .ok (some s) =>
      match readText s with
      | .error f => .error f
      | .ok (name, s) =>
        match member name state s with
        | .error f => .error f
        | .ok (state, s) => readMembersIn member turns false state s

/-- Reads the members of an object, and leaves its closing brace. -/
def readMembers {σ : Type} (member : String → σ → Reader σ) (start : σ) : Reader σ := fun s =>
  readMembersIn member (s.length + 1) true start s

end SubscriberContract.Json
