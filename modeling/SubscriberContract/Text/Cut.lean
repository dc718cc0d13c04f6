/-!
# Cutting texts

Splitting at a separator and removing a pattern, on lists of characters.
-/

namespace SubscriberContract.Text

/-- The length of a text in bytes. -/
def byteCount (s : List Char) : Nat := s.foldr (fun c n => c.utf8Size + n) 0

/-- The text before and after the first `sep`, if there is one. -/
def cutAt? (sep : Char) : List Char → Option (List Char × List Char)
  | [] => none
  | c :: s => if c = sep then some ([], s) else (cutAt? sep s).map fun (l, r) => (c :: l, r)

/-- What follows the last `sep`; the whole text where there is none. -/
def afterLast (sep : Char) (s : List Char) : List Char :=
  (s.reverse.takeWhile (· ≠ sep)).reverse

/-- The pieces between the separators; never empty. -/
def splitOn (sep : Char) : List Char → List (List Char)
  | [] => [[]]
  | c :: s =>
    if c = sep then [] :: splitOn sep s
    else match splitOn sep s with
      | [] => [[c]]
      | p :: ps => (c :: p) :: ps

/-- Drops `skip` characters, then every occurrence of `pattern`, taken from left to right without
overlap. -/
def eraseFrom (pattern : List Char) : Nat → List Char → List Char
  | _, [] => []
  | skip + 1, _ :: s => eraseFrom pattern skip s
  | 0, c :: s =>
    if pattern ≠ [] ∧ pattern.isPrefixOf (c :: s) then eraseFrom pattern (pattern.length - 1) s
    else c :: eraseFrom pattern 0 s

/-- The text without the occurrences of `pattern`. -/
def erase (pattern s : List Char) : List Char := eraseFrom pattern 0 s

end SubscriberContract.Text
