import SubscriberContract.Failure
import SubscriberContract.Files.Path
import SubscriberContract.Text.Order

/-!
# Finding unit files

The unit files below a directory are the files with the name of a unit file that are reached through
directories alone: links are skipped, and directories with an excluded name are not entered. They
are ordered by the names on their way, so neither the order of a listing nor the character after a
directory's name matters.
-/

namespace SubscriberContract

/-- The names on the way from a directory to a file below it. -/
abbrev Way := List String

/-- The order of ways, name by name. -/
def Way.le : Way → Way → Bool := Text.listLE Text.textLE

namespace UnitFiles

mutual

/-- The ways from the entry `name` of the directory at `path` to unit files. -/
def waysInto (exclude : List String) (path : String) (name : EntryName) :
    Item → Except Failure (List Way)
  | .link => .ok []
  | item =>
    match name with
    | .raw bytes => .error (.unnamable (Path.join path (Text.Utf8.display bytes)))
    | .text name =>
      match item with
      | .file => .ok (if Path.isUnitName name then [[name]] else [])
      | .directory entries =>
        if exclude.contains name then .ok []
        else (waysBelow exclude (Path.join path name) entries).map fun ways =>
          ways.map (name :: ·)
      | .locked fault =>
        if exclude.contains name then .ok []
        else .error (.unreadable (Path.join path name) fault)
      | .link | .special => .ok []

/-- The ways from the directory at `path` to the unit files below it. -/
def waysBelow (exclude : List String) (path : String) : Listing → Except Failure (List Way)
  | [] => .ok []
  | (name, item) :: entries => do
    let first ← waysInto exclude path name item
    let rest ← waysBelow exclude path entries
    return first ++ rest

end

/-- The paths of the unit files below the directory at `path`. -/
def collect (exclude : List String) (path : String) (listing : Listing) :
    Except Failure (List String) := do
  let ways ← waysBelow exclude path listing
  return (ways.mergeSort Way.le).map fun way => way.foldl Path.join path

/-- The paths of the unit files below the directory that `path` leads to. -/
def find (fs : FileSystem) (exclude : List String) (path : String) :
    Except Failure (List String) :=
  match fs.list path with
  | .error fault => .error (.unreadable path fault)
  | .ok listing => collect exclude path listing

end UnitFiles
end SubscriberContract
