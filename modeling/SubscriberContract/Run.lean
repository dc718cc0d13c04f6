import SubscriberContract.UnitFiles
import SubscriberContract.UnitReport

/-!
# Runs

A run checks one unit file, or every unit file below a directory in the order in which they are
found. It stops at the first unit that cannot be read or decoded, and what was written before stays
written. It fails on errors, and on warnings where the settings say so.
-/

namespace SubscriberContract

namespace Settings

/-- The name of the configuration file. -/
def fileName : String := "websub.toml"

/-- Reads the configuration file at `path`. -/
def load (fs : FileSystem) (path : String) : Except Failure Settings :=
  match fs.read path with
  | .error fault => .error (.unreadable path fault)
  | .ok text => (parse text).mapError (.badSettings path text)

/-- Reads the configuration file in the directory at `root`; without one, the settings are the
default ones. -/
def find (fs : FileSystem) (root : String) : Except Failure Settings :=
  let path := Path.join root fileName
  if fs.isFile path then load fs path else .ok default

/-- The directory with the configuration for `target`: the target itself or the one it is in. -/
def rootOf (fs : FileSystem) (target : String) : String :=
  if fs.isDirectory target then target
  else match Path.parent? target with
    | none | some "" => "."
    | some parent => parent

end Settings

/-- The totals of a run. -/
structure Summary where
  files : Nat
  errors : Nat
  warnings : Nat
deriving DecidableEq, Repr

namespace Summary

def empty : Summary := ⟨0, 0, 0⟩

/-- Counts one more file, with its diagnostics. -/
def record (s : Summary) (ds : List Diagnostic) : Summary :=
  ⟨s.files + 1, s.errors + ds.countP (·.isError), s.warnings + ds.countP (!·.isError)⟩

def diagnostics (s : Summary) : Nat := s.errors + s.warnings

def isFailure (s : Summary) (denyWarnings : Bool) : Bool :=
  s.errors > 0 || denyWarnings && s.warnings > 0

end Summary

/-- What checking wrote, and how it ended. -/
structure Checked where
  output : String
  result : Except Failure Summary

namespace Checked

/-- Checking stopped before anything was written. -/
def stopped (f : Failure) : Checked := ⟨"", .error f⟩

/-- Puts what was written earlier in front. -/
def after (earlier : String) (c : Checked) : Checked := { c with output := earlier ++ c.output }

end Checked

/-- Checks unit files in order, on top of the totals `s`. -/
def checkFiles (fs : FileSystem) (settings : Settings) (format : OutputFormat) (s : Summary) :
    List String → Checked
  | [] => ⟨"", .ok s⟩
  | path :: paths =>
    match UnitReport.load fs path with
    | .error f => .stopped f
    | .ok r =>
      let r := r.demote settings.warn
      (checkFiles fs settings format (s.record r.diagnostics) paths).after (r.print format)

/-- The unit files that `target` stands for. -/
def unitFilesOf (fs : FileSystem) (exclude : List String) (target : String) :
    Except Failure (List String) :=
  match fs.kind target with
  | some .file => if Path.isUnitFile target then .ok [target] else .error (.notAUnitFile target)
  | some .directory => UnitFiles.find fs exclude target
  | _ => .error (.noSuchPath target)

/-- Checks a unit file, or all below a directory. -/
def checkPath (fs : FileSystem) (settings : Settings) (format : OutputFormat) (target : String) :
    Checked :=
  match unitFilesOf fs settings.exclude target with
  | .error f => .stopped f
  | .ok [] => .stopped (.nothingToCheck target)
  | .ok paths => checkFiles fs settings format .empty paths

/-- What a run leaves behind. Text goes to standard error, and lines of JSON to standard output. -/
structure RunResult where
  stdout : String
  stderr : String
  failure : Option Failure
deriving DecidableEq

/-- Why a finished check fails a run, if it does. -/
def verdict (settings : Settings) : Except Failure Summary → Option Failure
  | .error f => some f
  | .ok s =>
    if s.isFailure settings.denyWarnings then some (.findings s.diagnostics s.files) else none

/-- Runs over `target`, with the settings found beside it; `format` goes before the configured
one. -/
def run (fs : FileSystem) (target : String) (format : Option OutputFormat) : RunResult :=
  match Settings.find fs (Settings.rootOf fs target) with
  | .error f => ⟨"", "", some f⟩
  | .ok settings =>
    let format := (format <|> settings.format).getD .text
    let c := checkPath fs settings format target
    match format with
    | .text => ⟨"", c.output, verdict settings c.result⟩
    | .json => ⟨c.output, "", verdict settings c.result⟩

end SubscriberContract
