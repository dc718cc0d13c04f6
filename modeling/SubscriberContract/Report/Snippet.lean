import SubscriberContract.Text.Cut
import SubscriberContract.Text.Width

/-!
# Snippets

The lines of a source around a span, with the span marked. Offsets, and the column in the heading,
count bytes; the marks are placed by display columns. A span inside one line is underlined; a longer
one is drawn in a gutter to the left of the lines.
-/

namespace SubscriberContract.Report

/-- The part of a source to mark, in bytes. -/
structure Mark where
  offset : Nat
  length : Nat

def Mark.stop (m : Mark) : Nat := m.offset + m.length

/-! ## The lines around a mark -/

/-- A scan of a source up to the end of the context of a mark. -/
structure Scan where
  /-- The bytes passed. -/
  position : Nat
  /-- The starts of the last lines before the mark, the first of them first. -/
  starts : List Nat
  lineStart : Nat
  /-- How many lines were passed before the first of `starts`. -/
  line : Nat
  /-- The bytes passed of the line in which the mark begins. -/
  column : Nat
  /-- Whether the end of the mark was reached. -/
  past : Bool
  /-- Whether the line in which the mark ends has ended. -/
  lineEnded : Bool
  /-- The lines ended since. -/
  after : Nat

namespace Scan

def start : Scan := ⟨0, [], 0, 0, 0, false, false, 0⟩

/-- Passes a line end; the scan is over if it was the last line wanted. -/
def passLine (m : Mark) (before after : Nat) (s : Scan) : Scan × Bool :=
  let next (s : Scan) : Scan := { s with lineStart := s.position + 1 }
  if s.position < m.offset then
    let starts := s.starts ++ [s.lineStart]
    if before < starts.length then
      (next { s with column := 0, starts := starts.tail, line := s.line + 1 }, false)
    else (next { s with column := 0, starts }, false)
  else if m.offset + (m.length - 1) ≤ s.position ∧ s.past then
    let s := if s.lineEnded then { s with after := s.after + 1 } else { s with lineEnded := true }
    if after ≤ s.after then ({ s with column := 0, position := s.position + 1 }, true)
    else (next { s with column := 0 }, false)
  else (next s, false)

/-- Passes the byte at the position; the scan is over where the mark has ended and no more lines are
wanted. -/
def passByte (m : Mark) (after : Nat) (s : Scan) : Scan × Bool :=
  let past := m.stop - 1 ≤ s.position
  ({ s with past := s.past || past, position := s.position + 1 }, past && after ≤ s.after)

/-- Scans a source for a mark with so many lines before and after it. A line ends at a line feed, a
carriage return, or both in that order. -/
def run (m : Mark) (before after : Nat) : Scan → List UInt8 → Scan
  | s, [] => s
  | s, b :: rest =>
    if b = 13 ∧ rest.head? = some 10 then
      run m before after { s with position := s.position + 1 } rest
    else
      let (s, ended) :=
        if b = 13 ∨ b = 10 then s.passLine m before after
        else (if s.position < m.offset then { s with column := s.column + 1 } else s, false)
      if ended then s
      else
        let (s, ended) := s.passByte m after
        if ended then s else run m before after s rest

def of (m : Mark) (before after : Nat) (source : List UInt8) : Scan :=
  run m before after start source

end Scan

/-- A line of a source. The length counts the line end, too. -/
structure Line where
  number : Nat
  offset : Nat
  length : Nat
  text : List Char

def Line.stop (l : Line) : Nat := l.offset + l.length

/-- The lines of a text. `passed` lines and `offset` bytes precede it, `bytes` and `text` (the last
first) of its first line are read. A text that does not end in a line end has one line more, which
counts on unless it ends in a carriage return. -/
def linesOf (passed offset bytes : Nat) (text : List Char) : List Char → List Line
  | [] => []
  | c :: s =>
    if c = '\r' ∧ s.head? = some '\n' then linesOf passed offset (bytes + 1) text s
    else if c = '\n' then
      ⟨passed + 1, offset, bytes + 1, text.reverse⟩ ::
        linesOf (passed + 1) (offset + bytes + 1) 0 [] s
    else
      let bytes := bytes + c.utf8Size
      if s = [] then [⟨if c = '\r' then passed else passed + 1, offset, bytes, (c :: text).reverse⟩]
      else linesOf passed offset bytes (c :: text) s

/-- The characters of a text from one byte offset to another, both between characters. -/
def bytesFromTo (start stop : Nat) : (position : Nat) → List Char → List Char
  | _, [] => []
  | position, c :: s =>
    let rest := bytesFromTo start stop (position + c.utf8Size) s
    if start ≤ position ∧ position < stop then c :: rest else rest

/-- How many lines are shown before and after a mark. -/
def contextLines : Nat := 3

/-- The lines shown for a mark. -/
def shownLines (m : Mark) (source : List Char) (bytes : List UInt8) : List Line :=
  let scan := Scan.of m contextLines contextLines bytes
  let start := scan.starts.head?.getD 0
  linesOf scan.line start 0 [] (bytesFromTo start scan.position 0 source)

/-! ## Columns -/

/-- Tabs go to the next multiple of this. -/
def tabWidth : Nat := 4

/-- The width of each character of a line. Terminal escape sequences take no room. -/
def widths : (column : Nat) → (escaped : Bool) → List Char → List Nat
  | _, _, [] => []
  | column, escaped, c :: s =>
    let w :=
      if escaped || c == '\x1b' then 0
      else if c = '\t' then tabWidth - column % tabWidth
      else Text.charWidth .earlier c
    let escaped := if escaped then c != 'm' else c == '\x1b'
    w :: widths (column + w) escaped s

/-- A line with its tabs written as spaces. -/
def expandTabs (s : List Char) : List Char :=
  ((s.zip (widths 0 false s)).map fun (c, w) =>
    if c = '\t' then List.replicate w ' ' else [c]).flatten

/-- The characters of a text before a byte offset; one that the offset falls into counts if `whole`.
Also whether the offset lies beyond the text. -/
def takeBytes (whole : Bool) : (offset : Nat) → List Char → List Char × Bool
  | offset, [] => ([], 0 < offset)
  | offset, c :: s =>
    if offset = 0 ∨ (offset < c.utf8Size ∧ !whole) then ([], false)
    else
      let (rest, beyond) := takeBytes whole (offset - c.utf8Size) s
      (c :: rest, beyond)

/-- The display column of a byte offset in a line. Beyond the text, in the line end, it is one
column past the text. -/
def column (l : Line) (offset : Nat) (whole : Bool) : Nat :=
  let (text, beyond) := takeBytes whole (offset - l.offset) l.text
  (widths 0 false text).foldr (· + ·) 0 + if beyond then 1 else 0

/-! ## Drawing -/

namespace Mark

variable (m : Mark) (l : Line)

/-- The end of the mark, or of the character at it where it is empty. -/
def reach : Nat := m.offset + max m.length 1

def begins : Bool := l.offset ≤ m.offset && m.offset < l.stop

def reaches : Bool := l.offset < m.reach && m.reach ≤ l.stop

/-- The mark lies within the line. -/
def inside : Bool := l.offset ≤ m.offset && m.stop ≤ l.stop

/-- The mark touches the line. -/
def applies : Bool :=
  m.begins l || (m.offset < l.offset && l.stop < m.reach) || m.reaches l

/-- The mark touches the line and others. -/
def passes : Bool := m.applies l && !(m.begins l && m.reaches l)

def ends : Bool := l.offset ≤ m.stop && m.stop ≤ l.stop

/-- What stands left of a line when a mark of several lines is drawn. -/
def gutter : String :=
  if !m.passes l then "    "
  else if l.offset ≤ m.offset then "╭─▶ "
  else if m.ends l then "├─▶ "
  else "│   "

/-- The lines under a line: the underline and the label of a mark inside it, or the label alone
where a longer mark ends. -/
def under (label : String) : List String :=
  if m.applies l && m.inside l then
    let s := column l m.offset false
    let t := if m.length = 0 then s + 1 else max (column l m.stop true) (s + 1)
    let v := (s + t) / 2
    let spaces (n : Nat) := "".pushn ' ' n
    let bar (n : Nat) := "".pushn '─' n
    [spaces s ++ bar (v - s) ++ (if m.length = 0 then "▲" else "┬") ++ bar (t - v - 1),
      spaces v ++ "╰── " ++ label]
  else if m.applies l && m.ends l && m.offset < l.offset then ["╰──── " ++ label]
  else []

end Mark

/-- The lines of the snippet for a mark in the source called `name`. -/
def snippet (name source label : String) (m : Mark) : List String :=
  let bytes := source.toUTF8.toList
  let place := Scan.of m 0 0 bytes
  let lines := shownLines m source.toList bytes
  let number (l : Line) := toString l.number
  let w := (lines.getLast?.map fun l => (number l).length).getD 1
  let margin := "".pushn ' ' (w + 2)
  let guttered := lines.any fun l => m.passes l && !m.inside l
  let draw (l : Line) : List String :=
    let gutter := if guttered then m.gutter l else ""
    let text := String.ofList (expandTabs l.text)
    let pad := "".pushn ' ' (w - (number l).length)
    (" " ++ pad ++ number l ++ " │ " ++ gutter ++ text) ::
      (m.under l label).map fun u => "".pushn ' ' (w + 1) ++ " · " ++ u
  s!"{margin}╭─[{name}:{place.line + 1}:{place.column + 1}]" :: lines.flatMap draw ++
    [margin ++ "╰────"]

end SubscriberContract.Report
