import SubscriberContract.Exchange.Diagnostic
import SubscriberContract.Failure
import SubscriberContract.Files.Path
import SubscriberContract.Settings
import SubscriberContract.Validation

/-!
# Reports of unit files

A unit file is read, decoded and checked. The source that the unit names is read only to be shown: a
source that cannot be read leaves the diagnostics as they are.
-/

namespace SubscriberContract

structure UnitReport where
  /-- The path of the unit file. -/
  path : String
  /-- The path of the source, if the unit names one. -/
  sourcePath : Option String
  /-- The text of the source, if it could be read. -/
  source : Option String
  diagnostics : List Diagnostic
deriving DecidableEq

namespace UnitReport

/-- Reads and checks the unit file at `path`. -/
def load (fs : FileSystem) (path : String) : Except Failure UnitReport :=
  match fs.read path with
  | .error fault => .error (.unreadable path fault)
  | .ok text =>
    match CompilationUnit.format.decode text with
    | .error cause => .error (.undecodable path text cause)
    | .ok u =>
      let sourcePath := u.source.map (Path.beside path)
      .ok ⟨path, sourcePath, sourcePath.bind fun p => (fs.read p).toOption, u.check⟩

/-- Reports the listed codes as warnings. -/
def demote (warn : List Code) (r : UnitReport) : UnitReport :=
  { r with diagnostics := r.diagnostics.map (Diagnostic.demote warn) }

/-- The path that diagnostics are shown at. -/
def shownPath (r : UnitReport) : String := r.sourcePath.getD r.path

/-- A diagnostic as text: a notice with the source, or one line without it. -/
def entryText (r : UnitReport) (d : Diagnostic) : String :=
  match r.source with
  | some _ => (Report.Notice.ofDiagnostic d r.shownPath r.source).text ++ "\n"
  | none => s!"{r.shownPath}:{d.span.start}..{d.span.stop}: {d.display}\n"

/-- A diagnostic as a line of JSON. -/
def entryLine (r : UnitReport) (d : Diagnostic) : String :=
  (d.reportTree r.shownPath).compact ++ "\n"

def entry (r : UnitReport) : OutputFormat → Diagnostic → String
  | .text => r.entryText
  | .json => r.entryLine

def print (r : UnitReport) (format : OutputFormat) : String :=
  String.join (r.diagnostics.map (r.entry format))

end UnitReport
end SubscriberContract
