import SubscriberContract.Files.System
import SubscriberContract.Json.Failure
import SubscriberContract.Report.Notice
import SubscriberContract.Settings

/-!
# Failures of a run

What stops a run before or while it checks, as opposed to what it finds in the units.
-/

namespace SubscriberContract

inductive Failure
  /-- A file or directory that cannot be read. -/
  | unreadable (path : String) (fault : ReadFault)
  /-- A unit file with a text that is no unit. -/
  | undecodable (path text : String) (cause : Json.Failure)
  /-- A configuration file with a text that is refused. -/
  | badSettings (path text : String) (cause : Settings.Fault)
  | notAUnitFile (path : String)
  | noSuchPath (path : String)
  /-- A directory entry with a name that is no text, its path as it is shown. -/
  | unnamable (path : String)
  /-- A directory without unit files. -/
  | nothingToCheck (path : String)
  /-- Diagnostics that fail the run. -/
  | findings (diagnostics files : Nat)
deriving DecidableEq, Repr

namespace Failure

def message : Failure → String
  | .unreadable path _ => s!"Failed to read '{path}'"
  | .undecodable path _ _ => s!"Failed to decode compilation unit '{path}'"
  | .badSettings path _ _ => s!"Failed to parse configuration '{path}'"
  | .notAUnitFile path =>
    s!"File '{path}' is not a compilation unit (expected a `.websub.json` file)"
  | .noSuchPath path => s!"Path '{path}' does not exist"
  | .unnamable path => s!"Path '{path}' is not valid UTF-8"
  | .nothingToCheck path => s!"No .websub.json files found in '{path}'"
  | .findings diagnostics files =>
    let plural := if diagnostics = 1 then "" else "s"
    s!"{diagnostics} diagnostic{plural} found in {files} file(s)"

def code : Failure → Option String
  | .unreadable .. => some "websub::io"
  | .undecodable .. => some "websub::unit"
  | .badSettings .. => some "websub::config"
  | .notAUnitFile _ | .noSuchPath _ | .unnamable _ => some "websub::path"
  | .nothingToCheck _ | .findings .. => none

def help : Failure → Option String
  | .undecodable .. =>
    some "unit files are JSON exports of the host model; see `websub-check contract`"
  | _ => none

/-- What caused the failure, with its place in the text. -/
def cause : Failure → Option String
  | .unreadable _ fault => some fault.describe
  | .undecodable _ text cause => some (cause.describeIn text)
  | .badSettings _ text cause => some (cause.describeIn text)
  | _ => none

/-- The notice that a program shows when it stops at the failure. -/
def notice (f : Failure) : Report.Notice :=
  ⟨f.code, .error, f.message, f.cause.toList, none, f.help⟩

end Failure
end SubscriberContract
