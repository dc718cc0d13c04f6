import SubscriberContract.Text.Cut

/-!
# Paths

A path is a text with `/` between its components. Nothing is normalized: a path is shown as it was
written and joined. Components that are empty or `.` say nothing at the end of a path.
-/

namespace SubscriberContract.Path

/-- Whether a path starts at the root. -/
def isAbsolute (path : String) : Bool := path.toList.head? = some '/'

/-- The path `x` seen from the directory `dir`. -/
def join (dir x : String) : String :=
  if dir.isEmpty ∨ isAbsolute x then x
  else if dir.toList.getLast? = some '/' then dir ++ x
  else dir ++ "/" ++ x

/-- Whether a component leads nowhere. -/
def isIdle (component : List Char) : Bool := component = [] ∨ component = ['.']

/-- The components up to the last one that leads somewhere; the first one is kept. -/
def trim (components : List (List Char)) : List (List Char) :=
  match components with
  | [] => []
  | first :: rest => first :: (rest.reverse.dropWhile isIdle).reverse

/-- The components of a path, without idle ones at its end. -/
def components (path : String) : List (List Char) := trim (Text.splitOn '/' path.toList)

/-- The path without its last component, if it has one. -/
def parent? (path : String) : Option String :=
  match components path with
  | [] | [[]] => none
  | cs =>
    match trim cs.dropLast with
    | [[]] => some "/"
    | cs => some ("/".intercalate (cs.map String.ofList))

/-- The last component, unless it only leads to a directory by its place. -/
def fileName? (path : String) : Option String :=
  match (components path).getLast? with
  | none | some [] | some ['.'] | some ['.', '.'] => none
  | some name => some (String.ofList name)

/-- The path of `x`, as the file at `path` names it. -/
def beside (path x : String) : String := (parent? path).elim x (join · x)

/-- What the names of unit files end in. -/
def unitSuffix : String := ".websub.json"

/-- Whether a file of this name is a unit file: something has to stand before the suffix. -/
def isUnitName (name : String) : Bool :=
  name.utf8ByteSize > unitSuffix.utf8ByteSize ∧ unitSuffix.toList.isSuffixOf name.toList

def isUnitFile (path : String) : Bool := (fileName? path).any isUnitName

end SubscriberContract.Path
