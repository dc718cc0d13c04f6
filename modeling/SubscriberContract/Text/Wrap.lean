import SubscriberContract.Text.Alphanumeric
import SubscriberContract.Text.Cut
import SubscriberContract.Text.Escape
import SubscriberContract.Text.LineBreak
import SubscriberContract.Text.Width

/-!
# Wrapping

A paragraph is cut into words at its break opportunities, and the words are filled into lines, each
line taking words as long as they fit. Spaces at the end of a word count only if another word
follows on the line, and are dropped at the end of the line. A word too wide for any line is cut.
-/

namespace SubscriberContract.Text

/-- A piece of text that is not broken, and the spaces after it. -/
structure Word where
  body : List Char
  spaces : List Char
deriving DecidableEq, Repr

namespace Word

def ofText (s : List Char) : Word :=
  let spaces := (s.reverse.takeWhile (· == ' ')).reverse
  ⟨s.take (s.length - spaces.length), spaces⟩

def text (w : Word) : List Char := w.body ++ w.spaces

end Word

/-- Cuts a text before each character whose flag is set. -/
def cutBefore : List Char → List Bool → List (List Char)
  | [], _ => []
  | [c], _ => [[c]]
  | c :: d :: s, flags =>
    let pieces := cutBefore (d :: s) flags.tail
    match flags.tail.head?, pieces with
    | some false, p :: ps => (c :: p) :: ps
    | _, ps => [c] :: ps

/-- Clears the last flag that is set. -/
def clearLast (flags : List Bool) : List Bool :=
  let rest := flags.reverse
  (rest.takeWhile (!·) ++ match rest.dropWhile (!·) with
    | [] => []
    | _ :: more => false :: more).reverse

/-- Hyphens and soft hyphens offer no break of their own; hyphens are dealt with inside words. -/
def isHyphen (c : Char) : Bool := c == '-' || c == '\u00ad'

/-- The break opportunities of a line without those after hyphens. The end of the line is one of
them, too, and the last of all is left out: where the end follows a hyphen, this is another one. -/
def visibleBreaks (s : List Char) : List Bool :=
  let flags := (breaksBefore s).zipWith (fun b prev => b && !isHyphen prev) (' ' :: s)
  match s.getLast? with
  | some c => if isHyphen c then clearLast flags else flags
  | none => flags

/-- The break opportunities of a line, seen without its escape sequences. -/
def wordBreaks (s : List Char) : List Bool :=
  spread false (EscapeState.hidden .outside s) (visibleBreaks (visible s))

/-- Puts a character in front of the first piece. -/
def consPiece (c : Char) : List (List Char) → List (List Char)
  | [] => [[c]]
  | p :: ps => (c :: p) :: ps

/-- Cuts after each hyphen between two letters or digits; `before` stands in front of the text. -/
def cutHyphens (before : Option Char) : List Char → List (List Char)
  | [] => [[]]
  | c :: s =>
    let rest := cutHyphens (some c) s
    if c = '-' && before.any isAlphanumeric && s.head?.any isAlphanumeric then [c] :: rest
    else consPiece c rest

/-- Cuts a text into pieces of at most `limit` columns; `used` columns are taken already. -/
def cutWide (limit : Nat) (state : EscapeState) : (used : Nat) → List Char → List (List Char)
  | _, [] => [[]]
  | used, c :: s =>
    let after := state.next c
    let w := charWidth .later c
    if state.hides c then consPiece c (cutWide limit after used s)
    else if 0 < used ∧ limit < used + w then [] :: consPiece c (cutWide limit after w s)
    else consPiece c (cutWide limit after (used + w) s)

/-- Words made of the pieces of one: the spaces stay with the last piece. -/
def wordsOfPieces (spaces : List Char) : List (List Char) → List Word
  | [] => []
  | [p] => [⟨p, spaces⟩]
  | p :: ps => ⟨p, []⟩ :: wordsOfPieces spaces ps

def Word.cutHyphens (w : Word) : List Word := wordsOfPieces w.spaces (Text.cutHyphens none w.body)

def Word.cutWide (limit : Nat) (w : Word) : List Word :=
  if width w.body ≤ limit then [w]
  else wordsOfPieces w.spaces (Text.cutWide limit .outside 0 w.body)

/-- The words of a line, none wider than `limit`. -/
def words (limit : Nat) (s : List Char) : List Word :=
  ((cutBefore s (wordBreaks s)).map Word.ofText).flatMap fun w =>
    w.cutHyphens.flatMap (Word.cutWide limit)

/-- Fills words into lines of at most `limit` columns; `used` columns of the first are taken by the
words of `line`, the last first. -/
def fill (limit : Nat) (line : List Word) (used : Nat) : List Word → List (List Word)
  | [] => [line.reverse]
  | w :: ws =>
    if limit < used + width w.body ∧ line ≠ [] then
      line.reverse :: fill limit [w] (width w.body + width w.spaces) ws
    else fill limit (w :: line) (used + width w.body + width w.spaces) ws

/-- The text of a line, without the spaces after its last word. -/
def lineText (line : List Word) : List Char :=
  match line.reverse with
  | [] => []
  | w :: rest => rest.reverse.flatMap Word.text ++ w.body

/-- Indents: what stands before the first line of a text, and before all others. -/
structure Indents where
  first : String
  others : String

/-- The lines of a text of at most `limit` columns, indents included. The two indents are equally
wide; the first line begins with an empty word. -/
def wrap (limit : Nat) (indents : Indents) (text : String) : List String :=
  let room := limit - width indents.others.toList
  let lines := (splitOn '\n' text.toList).flatMap fun paragraph =>
    (fill room [⟨[], []⟩] 0 (words room paragraph)).map lineText
  match lines.map String.ofList with
  | [] => [indents.first]
  | line :: rest => (indents.first ++ line) :: rest.map (indents.others ++ ·)

end SubscriberContract.Text
