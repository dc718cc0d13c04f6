import SubscriberContract.Text.Cut

/-!
# Places in a document

A stretch of a document, and the lines that show a reader where it is: the line of the document on
which it begins, and a mark under the stretch.
-/

namespace SubscriberContract.Toml

/-- A stretch of a document: the text from its first character on, and the text after it. -/
structure Extent where
  start : List Char
  stop : List Char
deriving DecidableEq, Repr

namespace Extent

/-- The first character of a text, or the end of the document. -/
def atFront (s : List Char) : Extent := ⟨s, s.tail⟩

/-- From the start of one stretch to the end of another. -/
def through (first last : Extent) : Extent := ⟨first.start, last.stop⟩

/-- The length in bytes. -/
def length (e : Extent) : Nat := Text.byteCount e.start - Text.byteCount e.stop

/-- The text before the last character passed: at the end of the document, the last character of
the document counts as not yet passed. -/
def before (e : Extent) (document : List Char) : List Char :=
  if e.start = [] then document.dropLast
  else document.take (document.length - e.start.length)

/-- How many lines end before the stretch. -/
def line (e : Extent) (document : List Char) : Nat := (e.before document).count '\n'

/-- How far into its line the stretch begins. This counts characters, but bytes where the first
character of the stretch takes several; the end of the document is one after its last character. -/
def column (e : Extent) (document : List Char) : Nat :=
  let passed := Text.afterLast '\n' (e.before document)
  match e.start with
  | [] => if document = [] then 0 else passed.length + 1
  | c :: _ => if c.utf8Size = 1 then passed.length else Text.byteCount passed

/-- The line of the document on which the stretch begins. -/
def lineText (e : Extent) (document : List Char) : List Char :=
  (Text.splitOn '\n' document).getD (e.line document) []

/-- How many columns are marked: at least one, and none beyond the bytes of the line. -/
def markWidth (e : Extent) (document : List Char) : Nat :=
  max 1 (min e.length (Text.byteCount (e.lineText document) - e.column document))

/-- A message with its place in the document. -/
def pointOut (e : Extent) (document : List Char) (message : String) : String :=
  let number := toString (e.line document + 1)
  let column := e.column document
  let margin := "".pushn ' ' (number.length + 1) ++ "|"
  let content := String.ofList (e.lineText document)
  let mark := "".pushn ' ' (column + 1) ++ "".pushn '^' (e.markWidth document)
  String.join <| [s!"TOML parse error at line {number}, column {column + 1}", margin,
    s!"{number} | {content}", margin ++ mark, message].map (· ++ "\n")

end Extent
end SubscriberContract.Toml
