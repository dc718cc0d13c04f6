import SubscriberContract.Diagnostic
import SubscriberContract.Report.Snippet
import SubscriberContract.Text.Wrap

/-!
# Notices

A notice is one message for a reader at a terminal: a code, the message and its causes, a snippet
of the source and a help text. The notice of a diagnostic has a place, with a mark whether or not
the source could be read; the snippet needs both.
-/

namespace SubscriberContract.Report

/-- A source as it is shown. -/
structure NamedSource where
  name : String
  text : String

/-- Where a diagnostic is. -/
structure Place where
  mark : Mark
  /-- The source that the mark lies in, if it could be read. -/
  source : Option NamedSource

structure Notice where
  code : Option String
  severity : Severity
  message : String
  causes : List String
  /-- A message about a run as a whole has none. -/
  place : Option Place
  help : Option String

/-- What a notice shows of a source. -/
structure Excerpt where
  name : String
  source : String
  label : String
  mark : Mark

def label : Severity → String
  | .error => "error here"
  | .warning => "warning here"

/-- The source with its mark labelled. Without a source nothing is labelled. -/
def Notice.excerpt (n : Notice) : Option Excerpt := do
  let place ← n.place
  let source ← place.source
  return ⟨source.name, source.text, label n.severity, place.mark⟩

/-- The width of the terminal, less the two columns kept free at its right. -/
def lineWidth : Nat := 78

def messageIndents : Severity → Text.Indents
  | .error => ⟨"  × ", "  │ "⟩
  | .warning => ⟨"  ⚠ ", "  │ "⟩

def causeIndents : Text.Indents := ⟨"  ╰─▶ ", "      "⟩

def helpIndents : Text.Indents := ⟨"  help: ", "        "⟩

def Notice.lines (n : Notice) : List String :=
  (n.code.elim [] fun c => [c, ""])
    ++ Text.wrap lineWidth (messageIndents n.severity) n.message
    ++ n.causes.flatMap (Text.wrap lineWidth causeIndents)
    ++ (n.excerpt.elim [] fun e => snippet e.name e.source e.label e.mark)
    ++ (n.help.elim [] fun h => Text.wrap lineWidth helpIndents h)

/-- Lines as text, each ended by a line feed. -/
def unlines (lines : List String) : String := String.join (lines.map (· ++ "\n"))

def Notice.text (n : Notice) : String := unlines n.lines

/-- The part that a span marks. In a source, what lies beyond it is cut off; where there is none to
compare it with, the span stays as it is. -/
def markOf (source : Option String) (s : Span) : Mark :=
  let s := match source with
    | some text => s.clampTo text.utf8ByteSize
    | none => s
  ⟨s.start.toNat, s.length.toNat⟩

/-- The notice of a diagnostic, with the source called `name` where it could be read. -/
def Notice.ofDiagnostic (d : Diagnostic) (name : String) (source : Option String) : Notice where
  code := some d.code.label
  severity := d.severity
  message := d.message
  causes := []
  place := some ⟨markOf source d.span, source.map (⟨name, ·⟩)⟩
  help := d.hint

end SubscriberContract.Report
