import SubscriberContract.CommandLine

/-!
# The program

Takes a snapshot of the files that a command line asks for and answers from it. What is looked at is
decided by the same functions that give the answer, on the part that has been seen already.
-/

namespace SubscriberContract

/-- What has been seen of a file system. -/
structure Snapshot where
  kinds : List (String × FileKind)
  texts : List (String × Except ReadFault String)
  listings : List (String × Except ReadFault Listing)

namespace Snapshot

def empty : Snapshot := ⟨[], [], []⟩

/-- What has not been seen is taken as missing. -/
def fileSystem (s : Snapshot) : FileSystem where
  kind path := s.kinds.lookup path
  read path := (s.texts.lookup path).getD (.error .notFound)
  list path := (s.listings.lookup path).getD (.error .notFound)

end Snapshot

def FileKind.ofType : IO.FS.FileType → FileKind
  | .dir => .directory
  | .file => .file
  | .symlink | .other => .special

/-- The fault that a failed reading shows; `kind` is what the path leads to. -/
def ReadFault.ofError (kind : Option FileKind) : IO.Error → ReadFault
  | .noFileOrDirectory .. => .notFound
  | .inappropriateType .. => if kind = some .directory then .isDirectory else .notDirectory
  | .permissionDenied _ code _ => .other s!"Permission denied (os error {code})"
  | e => .other (toString e)

namespace Snapshot

/-- The kind of what a path leads to. The empty path leads nowhere. -/
def kindOf (path : String) : IO (Option FileKind) := do
  if path.isEmpty then return none
  try
    let here ← IO.currentDir
    return some (.ofType (← (here / path).metadata).type)
  catch _ => return none

def seeKind (s : Snapshot) (path : String) : IO Snapshot := do
  match ← kindOf path with
  | some kind => return { s with kinds := (path, kind) :: s.kinds }
  | none => return s

def textOf (path : String) : IO (Except ReadFault String) := do
  if path.isEmpty then return .error .notFound
  let kind ← kindOf path
  if kind = some .directory then return .error .isDirectory
  try
    let content ← IO.FS.readBinFile path
    match Text.Utf8.decode? content.toList with
    | some text => return .ok text
    | none => return .error .invalidText
  catch e => return .error (.ofError kind e)

def seeText (s : Snapshot) (path : String) : IO Snapshot := do
  return { s with texts := (path, ← textOf path) :: s.texts }

/-- What lies below a directory. An entry that its name does not lead to has a name that is no
text. -/
partial def listingOf (path : String) : IO (Except ReadFault Listing) := do
  try
    let here ← IO.currentDir
    let mut entries := []
    for entry in ← (here / path).readDir do
      match ← entry.path.symlinkMetadata.toBaseIO with
      | .error _ => entries := (.raw entry.fileName.toUTF8.toList, .special) :: entries
      | .ok found =>
        let item ← match found.type with
          | .symlink => pure .link
          | .file => pure .file
          | .other => pure .special
          | .dir =>
            match ← listingOf entry.path.toString with
            | .ok below => pure (.directory below)
            | .error fault => pure (.locked fault)
        entries := (.text entry.fileName, item) :: entries
    return .ok entries.reverse
  catch e => return .error (.ofError none e)

def seeListing (s : Snapshot) (path : String) : IO Snapshot := do
  return { s with listings := (path, ← listingOf path) :: s.listings }

/-- All that a run over `target` looks at. -/
def take (target : String) : IO Snapshot := do
  let mut s ← empty.seeKind target
  let root := Settings.rootOf s.fileSystem target
  let settingsPath := Path.join root Settings.fileName
  s ← s.seeKind settingsPath
  s ← s.seeText settingsPath
  let .ok settings := Settings.find s.fileSystem root | return s
  if s.fileSystem.isDirectory target then s ← s.seeListing target
  let .ok paths := unitFilesOf s.fileSystem settings.exclude target | return s
  for path in paths do
    s ← s.seeText path
    let .ok r := UnitReport.load s.fileSystem path | return s
    if let some source := r.sourcePath then s ← s.seeText source
  return s

end Snapshot
end SubscriberContract

open SubscriberContract in
def main (words : List String) : IO UInt32 := do
  let request := CommandLine.parse words
  let s ← match request with
    | .check path _ => Snapshot.take path
    | _ => pure .empty
  let ending := request.answer s.fileSystem
  IO.print ending.stdout
  IO.eprint ending.stderr
  return ending.status.toUInt32
