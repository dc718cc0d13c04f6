import SubscriberContract.Toml.Reading

/-!
# TOML documents

A document is read line by line. The entries under a header are collected and put into the document
when the next header, or the end, is reached. A key may be given once; a table may be extended only
as its form allows.
-/

namespace SubscriberContract.Toml

/-- Changes the table that a path leads to. Tables missing on the way are opened: by a dotted key
when `dotted`, else as implied by a header. `passed` are the keys on the way so far, the last
first. -/
def changeAt (dotted : Bool) (change : TableForm → Entries → Except Reason Entries) :
    (passed : List String) → (path : List Key) → TableForm → Entries → Except Reason Entries
  | _, [], form, entries => change form entries
  | passed, key :: path, _, entries =>
    let next := changeAt dotted change (key.name :: passed) path
    match entries.valueOf? key.name with
    | none => do
      let form := if dotted then .dotted else .implied
      return entries ++ [(key, ⟨none, .table form (← next form [])⟩)]
    | some ⟨extent, .table form inner⟩ =>
      if dotted ∧ form = .header then .error (.duplicateKey key.name)
      else do return entries.put key ⟨extent, .table form (← next form inner)⟩
    | some ⟨extent, .tables items⟩ =>
      match items.reverse with
      | [] => .ok entries
      | last :: before => do
        let last := { last with value := ← next .header last.value }
        return entries.put key ⟨extent, .tables (before.reverse ++ [last])⟩
    | some ⟨_, v⟩ => .error (.extendsValue (key.name :: passed).reverse v.kind)

/-- A document in the making. -/
structure Draft where
  root : Entries
  /-- The entries under the last header. -/
  current : Entries
  /-- The last header and what stands under it so far; nothing before the first one. -/
  extent : Option Extent
  /-- The keys of that header; none before the first one. -/
  path : List Key
  /-- Whether that header is one of an array of tables. -/
  inArray : Bool

namespace Draft

def start : Draft := ⟨[], [], none, [], false⟩

/-- Enters a value under a dotted key. -/
def enter (d : Draft) (path : List Key) (last : Key) (item : LocatedValue) :
    Except Reason Draft := do
  let add (form : TableForm) (entries : Entries) : Except Reason Entries :=
    if (form == .dotted) == path.isEmpty then .error (.duplicateKey last.name)
    else match entries.valueOf? last.name with
      | none => .ok (entries ++ [(last, item)])
      | some _ => .error (.duplicateKeyIn last.name (d.path.map Key.name))
  return { d with
    current := ← changeAt true add [] path .header d.current
    extent := d.extent.map fun e => (item.extent.elim e e.through) }

/-- The tables of an array after another one is added. -/
def addTable (items : List (Located Entries)) (table : Located Entries) : LocatedValue :=
  let items := items ++ [table]
  let first := items.head?.bind (·.extent)
  ⟨first.bind fun e => table.extent.map e.through, .tables items⟩

/-- Puts the entries under the last header into the document. -/
def close (d : Draft) : Except Reason Entries :=
  match d.path.getLast? with
  | none => .ok d.current
  | some key =>
    let put (_ : TableForm) (entries : Entries) : Except Reason Entries :=
      if d.inArray then
        match entries.valueOf? key.name with
        | some ⟨_, .tables items⟩ => .ok (entries.put key (addTable items ⟨d.extent, d.current⟩))
        | _ => .ok (entries.put key (addTable [] ⟨d.extent, d.current⟩))
      else .ok (entries.put key ⟨d.extent, .table .header d.current⟩)
    changeAt false put [] d.path.dropLast .header d.root

/-- Begins a table with its header; one that is only implied so far keeps its entries. -/
def beginTable (d : Draft) (header : Extent) (path : List Key) (last : Key) :
    Except Reason Draft := do
  let root ← d.close
  let held ← find root path
  let take (_ : TableForm) (entries : Entries) : Except Reason Entries :=
    match entries.valueOf? last.name with
    | none => .ok entries
    | some ⟨_, .table .implied _⟩ => .ok (entries.filter (·.1.name != last.name))
    | some _ => .error (.duplicateKeyIn last.name (path.map Key.name))
  let root ← changeAt false take [] path .header root
  return ⟨root, held, some header, path ++ [last], false⟩
where
  /-- The entries of the implied table at the end of a path. -/
  find (entries : Entries) : List Key → Except Reason Entries
    | [] =>
      match entries.valueOf? last.name with
      | some ⟨_, .table .implied inner⟩ => .ok inner
      | _ => .ok []
    | key :: path =>
      match entries.valueOf? key.name with
      | some ⟨_, .table _ inner⟩ => find inner path
      | some ⟨_, .tables items⟩ => find ((items.getLast?.map (·.value)).getD []) path
      | _ => .ok []

/-- Begins another table of an array of tables with its header. -/
def beginItem (d : Draft) (header : Extent) (path : List Key) (last : Key) :
    Except Reason Draft := do
  let root ← d.close
  let opened (_ : TableForm) (entries : Entries) : Except Reason Entries :=
    match entries.valueOf? last.name with
    | none => .ok (entries ++ [(last, ⟨none, .tables []⟩)])
    | some ⟨_, .tables _⟩ => .ok entries
    | some _ => .error (.duplicateKeyIn last.name (path.map Key.name))
  let root ← changeAt false opened [] path .header root
  return ⟨root, [], some header, path ++ [last], true⟩

end Draft

/-- Reads a header line from after its opening bracket or brackets: its keys, and the text after its
closing ones. -/
def readHeader (closing : List Char) (what : String) (s : Input) :
    Except Trouble (((List Key × Key) × Input) × Input) := must do
  let (key, s) ← readKey s
  let s ← expecting ["`.`", what] (readAll closing s)
  return ((key, s), ← expecting lineRest (readRestOfLine s))

/-- Reads a header line. -/
def readTable (d : Draft) (s : Input) : Except Trouble (Draft × Input) :=
  labelled "table header" <| must <|
    match s with
    | '[' :: '[' :: inside => do
      let (((path, last), stop), rest) ← readHeader [']', ']'] "`]]`" inside
      return (← refusedAt s (d.beginItem ⟨s, stop⟩ path last), rest)
    | '[' :: c :: inside => do
      let (((path, last), stop), rest) ← readHeader [']'] "`]`" (c :: inside)
      return (← refusedAt s (d.beginTable ⟨s, stop⟩ path last), rest)
    | s => fail s

/-- Reads a line with a key and a value. -/
def readEntry (d : Draft) (s : Input) : Except Trouble (Draft × Input) := must do
  let ((path, last), rest) ← readKey s
  let rest ← readEquals rest
  let (v, rest) ← readValue maxDepth (skipSpaces rest)
  let rest ← expecting lineRest (readRestOfLine rest)
  return (← refusedAt s (d.enter path last v), rest)

/-- Reads lines to the end of the text, in at most `turns` turns. -/
def readLines : (turns : Nat) → Draft → Input → Except Trouble Draft
  | 0, d, _ => .ok d
  | turns + 1, d, s =>
    match skipSpaces s with
    | [] => .ok d
    | '#' :: s => do readLines turns d (← must (endLine (skipComment ('#' :: s))))
    | '[' :: s => do
      let (d, s) ← readTable d ('[' :: s)
      readLines turns d s
    | s =>
      match lineEnd? s with
      | some s => readLines turns d s
      | none =>
        if s.head? = some '\r' then fail s
        else do
          let (d, s) ← readEntry d s
          readLines turns d s

/-- Reads a document; a byte order mark in front of it does not count. -/
def parse (text : String) : Except Trouble Entries := do
  let s := text.toList
  let s := if s.head? = some '\ufeff' then s.tail else s
  let d ← readLines (s.length + 1) .start s
  refusedAt [] d.close

end SubscriberContract.Toml
