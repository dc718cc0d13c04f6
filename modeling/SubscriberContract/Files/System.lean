import SubscriberContract.Text.Utf8

/-!
# File systems

What a run asks of a file system: the kind of what a path leads to, the text of a file, and all that
lies below a directory. Links are followed on the way to a path, but what lies below a directory is
listed with its links as links, so every listing is finite.
-/

namespace SubscriberContract

/-- Why a path could not be read. -/
inductive ReadFault
  | notFound | isDirectory | notDirectory | tooManyLinks
  /-- The file is no UTF-8 text. -/
  | invalidText
  /-- Another fault, in the words of the file system. -/
  | other (text : String)
deriving DecidableEq, Repr

def ReadFault.describe : ReadFault → String
  | .notFound => "No such file or directory (os error 2)"
  | .isDirectory => "Is a directory (os error 21)"
  | .notDirectory => "Not a directory (os error 20)"
  | .tooManyLinks => "Too many levels of symbolic links (os error 40)"
  | .invalidText => "stream did not contain valid UTF-8"
  | .other text => text

/-- The name of a directory entry. -/
inductive EntryName
  | text (name : String)
  /-- A name that is no UTF-8 text. -/
  | raw (bytes : List UInt8)
deriving DecidableEq, Repr

namespace EntryName

def ofBytes (bytes : List UInt8) : EntryName :=
  match Text.Utf8.decode? bytes with
  | some name => .text name
  | none => .raw bytes

/-- The name as messages show it. -/
def display : EntryName → String
  | .text name => name
  | .raw bytes => Text.Utf8.display bytes

end EntryName

/-- What a path leads to, links followed. -/
inductive FileKind
  | file | directory | special
deriving DecidableEq, Repr

/-- What a directory holds under a name. -/
inductive Item
  | file
  | directory (entries : List (EntryName × Item))
  /-- A directory that cannot be listed. -/
  | locked (fault : ReadFault)
  | link
  | special

/-- What a directory holds, in the order in which the file system lists it. -/
abbrev Listing := List (EntryName × Item)

structure FileSystem where
  kind : (path : String) → Option FileKind
  read : (path : String) → Except ReadFault String
  list : (path : String) → Except ReadFault Listing

namespace FileSystem

def isFile (fs : FileSystem) (path : String) : Bool := fs.kind path == some .file

def isDirectory (fs : FileSystem) (path : String) : Bool := fs.kind path == some .directory

end FileSystem
end SubscriberContract
