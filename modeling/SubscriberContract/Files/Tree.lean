import SubscriberContract.Files.System
import SubscriberContract.Text.Cut

/-!
# File trees

A tree of files held as a value: what a file system holds below the current directory. Paths are
followed through links up to a bound; what lies above the tree or starts at the root of the file
system is not there.
-/

namespace SubscriberContract

inductive FileTree
  | file (content : List UInt8)
  | link (target : String)
  | directory (entries : List (EntryName × FileTree))

namespace FileTree

abbrev Entries := List (EntryName × FileTree)

/-- Where something is in a tree: the names of the directories to go through. -/
abbrev Place := List EntryName

def empty : FileTree := .directory []

/-- The components of a path; empty ones are kept. -/
def components (path : String) : Place :=
  (Text.splitOn '/' path.toList).map fun c => .text (String.ofList c)

/-- The components of a path that may be no text. -/
def rawComponents (bytes : List UInt8) : Place :=
  let (last, before) := bytes.foldr (fun b (piece, pieces) =>
    if b = 0x2F then ([], piece :: pieces) else (b :: piece, pieces)) ([], [])
  (last :: before).map .ofBytes

/-- Sets what stands under a name; a new name comes last. -/
def put (name : EntryName) (t : FileTree) : Entries → Entries
  | [] => [(name, t)]
  | (n, u) :: es => if n = name then (n, t) :: es else (n, u) :: put name t es

/-- What stands at a place. -/
def get? (t : FileTree) : Place → Option FileTree
  | [] => some t
  | name :: place =>
    match t with
    | .directory entries => (entries.lookup name).bind (·.get? place)
    | _ => none

/-- Changes what stands at a place. -/
def modify (f : FileTree → FileTree) (t : FileTree) : Place → FileTree
  | [] => f t
  | name :: place =>
    match t with
    | .directory entries =>
      match entries.lookup name with
      | some u => .directory (put name (u.modify f place) entries)
      | none => t
    | _ => t

/-- Puts a tree under a name into the directory at a place. -/
def insert (t : FileTree) (place : Place) (name : EntryName) (u : FileTree) : FileTree :=
  t.modify (fun d => match d with
    | .directory entries => .directory (put name u entries)
    | _ => d) place

/-- Removes a name from the directory at a place. -/
def erase (t : FileTree) (place : Place) (name : EntryName) : FileTree :=
  t.modify (fun d => match d with
    | .directory entries => .directory (entries.filter (·.1 ≠ name))
    | _ => d) place

/-- How many links a path may lead through. -/
def maxLinks : Nat := 40

/-- Whether a component leads nowhere. -/
def isIdle (c : EntryName) : Bool := c = .text "" ∨ c = .text "."

/-- Follows components from the directory at a place. -/
def follow (t : FileTree) (links : Nat) (place : Place) : List EntryName → Except ReadFault Place
  | [] => .ok place
  | c :: cs =>
    match t.get? place with
    | some (.directory entries) =>
      if isIdle c then follow t links place cs
      else if c = .text ".." then
        if place = [] then .error .notFound else follow t links place.dropLast cs
      else match entries.lookup c with
        | none => .error .notFound
        | some (.link target) =>
          if links = 0 then .error .tooManyLinks
          else if target.toList.head? = some '/' then .error .notFound
          else follow t (links - 1) place (components target ++ cs)
        | some _ => follow t links (place ++ [c]) cs
    | _ => .error .notDirectory
termination_by cs => (links, cs.length)

/-- The place that a path leads to. -/
def resolve (t : FileTree) (path : String) : Except ReadFault Place :=
  if path = "" ∨ path.toList.head? = some '/' then .error .notFound
  else t.follow maxLinks [] (components path)

/-- What a path leads to. -/
def node? (t : FileTree) (path : String) : Except ReadFault FileTree := do
  match t.get? (← t.resolve path) with
  | some u => return u
  | none => throw .notFound

mutual

/-- A tree as an entry of a listing. -/
def item : FileTree → Item
  | .file _ => .file
  | .link _ => .link
  | .directory entries => .directory (listing entries)

def listing : List (EntryName × FileTree) → Listing
  | [] => []
  | (name, t) :: es => (name, t.item) :: listing es

end

def kind (t : FileTree) (path : String) : Option FileKind :=
  match t.node? path with
  | .ok (.file _) => some .file
  | .ok (.directory _) => some .directory
  | _ => none

def read (t : FileTree) (path : String) : Except ReadFault String := do
  match ← t.node? path with
  | .file content =>
    match Text.Utf8.decode? content with
    | some text => return text
    | none => throw .invalidText
  | .directory _ => throw .isDirectory
  | .link _ => throw .notFound

def list (t : FileTree) (path : String) : Except ReadFault Listing := do
  match ← t.node? path with
  | .directory entries => return listing entries
  | _ => throw .notDirectory

/-- The tree as the file system of the current directory. -/
def fileSystem (t : FileTree) : FileSystem := ⟨t.kind, t.read, t.list⟩

/-! ## Changes -/

/-- Goes through components and makes the directories that are missing. -/
def enter (t : FileTree) (links : Nat) (place : Place) : List EntryName → FileTree × Place
  | [] => (t, place)
  | c :: cs =>
    if isIdle c then enter t links place cs
    else if c = .text ".." then enter t links place.dropLast cs
    else match (t.get? (place ++ [c])) with
      | none => enter (t.insert place c empty) links (place ++ [c]) cs
      | some (.link target) =>
        if links = 0 then (t, place) else enter t (links - 1) place (components target ++ cs)
      | some _ => enter t links (place ++ [c]) cs
termination_by cs => (links, cs.length)

/-- The components that lead somewhere, as the directory and the name in it. -/
def split? (path : List EntryName) : Option (List EntryName × EntryName) :=
  let path := path.filter (!isIdle ·)
  path.getLast?.map (path.dropLast, ·)

/-- Puts a tree at a path, below directories that are made where they are missing. A link at the
path is replaced. -/
def store (t : FileTree) (path : List EntryName) (u : FileTree) : FileTree :=
  match split? path with
  | none => t
  | some (parents, name) =>
    let (t, dir) := t.enter maxLinks [] parents
    t.insert dir name u

/-- Writes a file at a path seen from a directory, through the links that stand there. -/
def writeFrom (content : List UInt8) :
    (links : Nat) → FileTree → (dir : Place) → (path : List EntryName) → FileTree
  | links, t, dir, path =>
    match split? path with
    | none => t
    | some (parents, name) =>
      let (t, dir) := t.enter links dir parents
      match t.get? (dir ++ [name]), links with
      | some (.link target), links + 1 => writeFrom content links t dir (components target)
      | _, _ => t.insert dir name (.file content)

def write (t : FileTree) (path : List EntryName) (content : List UInt8) : FileTree :=
  writeFrom content maxLinks t [] path

def makeDirectory (t : FileTree) (path : List EntryName) : FileTree :=
  (t.enter maxLinks [] path).1

/-- Removes what stands at a path. -/
def remove (t : FileTree) (path : List EntryName) : FileTree :=
  match split? path with
  | none => t
  | some (parents, name) =>
    let (t, dir) := t.enter maxLinks [] parents
    t.erase dir name

end FileTree
end SubscriberContract
