import SubscriberContract.Run

/-!
# The command line

Words are taken from left to right, and the first one that asks for help or for the version, or that
does not belong, ends the reading. Logging is the business of whoever runs the program, so the flag
`-v` changes nothing here.
-/

namespace SubscriberContract.CommandLine

/-! ## Texts -/

def versionText : String := "websub-check 0.1.0\n"

def topHelp : String := Report.unlines
  ["Check WebSub subscriber service declarations against the callback contract",
    "",
    "Usage: websub-check [OPTIONS] <COMMAND>",
    "",
    "Commands:",
    "  check     Check compilation unit files for contract violations",
    "  contract  Print the subscriber callback contract",
    "  help      Print this message or the help of the given subcommand(s)",
    "",
    "Options:",
    "  -v, --verbose  Enable debug logging (overridden by `RUST_LOG`)",
    "  -h, --help     Print help",
    "  -V, --version  Print version"]

def checkHelp : String := Report.unlines
  ["Check compilation unit files for contract violations",
    "",
    "Usage: websub-check check [OPTIONS] [PATH]",
    "",
    "Arguments:",
    "  [PATH]  Unit file or directory to check [default: .]",
    "",
    "Options:",
    "      --format <FORMAT>  Output format: text (default) or json",
    "  -v, --verbose          Enable debug logging (overridden by `RUST_LOG`)",
    "  -h, --help             Print help"]

def contractHelp : String := Report.unlines
  ["Print the subscriber callback contract",
    "",
    "Usage: websub-check contract [OPTIONS]",
    "",
    "Options:",
    "  -v, --verbose  Enable debug logging (overridden by `RUST_LOG`)",
    "  -h, --help     Print help"]

def helpHelp : String := Report.unlines
  ["Print this message or the help of the given subcommand(s)",
    "",
    "Usage: websub-check help [COMMAND]...",
    "",
    "Arguments:",
    "  [COMMAND]...  Print help for the subcommand(s)"]

/-! ## Reading -/

/-- What a command line asks for. -/
inductive Request
  | check (path : String) (format : Option OutputFormat)
  /-- A text to print, and nothing else. -/
  | show (text : String)
  /-- The words do not belong together. -/
  | misuse
deriving DecidableEq, Repr

inductive Flag
  | verbose | help | version
deriving DecidableEq, Repr

/-- A word by its form. -/
inductive Word
  /-- Flags written one by one or together; `none` is an unknown one. -/
  | flags (flags : List (Option Flag))
  /-- The option for the format, with the value that the word itself holds. -/
  | format (value : Option String)
  /-- All words after this one are plain. -/
  | separator
  | plain (text : String)
deriving DecidableEq, Repr

def shortFlag? : Char → Option Flag
  | 'v' => some .verbose
  | 'h' => some .help
  | 'V' => some .version
  | _ => none

def longFlag? : String → Option Flag
  | "verbose" => some .verbose
  | "help" => some .help
  | "version" => some .version
  | _ => none

def Word.of (text : String) : Word :=
  match text.toList with
  | ['-', '-'] => .separator
  | '-' :: '-' :: name =>
    match Text.cutAt? '=' name with
    | some (['f', 'o', 'r', 'm', 'a', 't'], value) => .format (some (String.ofList value))
    | some _ => .flags [none]
    | none =>
      if name = "format".toList then .format none else .flags [longFlag? (String.ofList name)]
  | '-' :: c :: cs => .flags ((c :: cs).map shortFlag?)
  | _ => .plain text

/-- How a command answers the flags that all commands share. -/
structure Level where
  help : String
  /-- The text of the version, where it can be asked for. -/
  version : Option String

/-- Reads flags one by one. The flag `-v` may be given once; the answer is whether it has been. -/
def Level.readFlags (l : Level) (verbose : Bool) : List (Option Flag) → Except Request Bool
  | [] => .ok verbose
  | some .verbose :: flags => if verbose then .error .misuse else l.readFlags true flags
  | some .help :: _ => .error (.show l.help)
  | some .version :: _ => .error (l.version.elim .misuse .show)
  | none :: _ => .error .misuse

def topLevel : Level := ⟨topHelp, some versionText⟩

def checkLevel : Level := ⟨checkHelp, none⟩

def contractLevel : Level := ⟨contractHelp, none⟩

/-- What has been read of the words of `check`. -/
structure CheckWords where
  verbose : Bool
  path : Option String
  format : Option OutputFormat

namespace CheckWords

def empty : CheckWords := ⟨false, none, none⟩

def request (w : CheckWords) : Request := .check (w.path.getD ".") w.format

/-- Takes a path, of which there may be one. -/
def takePath (w : CheckWords) (path : String) : Except Request CheckWords :=
  if w.path.isSome then .error .misuse else .ok { w with path := some path }

/-- Takes the value of the format, which may be given once. -/
def takeFormat (w : CheckWords) (value : String) : Except Request CheckWords :=
  match w.format, OutputFormat.ofName? value with
  | none, some f => .ok { w with format := some f }
  | _, _ => .error .misuse

/-- Reads words that are all plain. -/
def readPlain (w : CheckWords) : List String → Request
  | [] => w.request
  | text :: texts =>
    match w.takePath text with
    | .error r => r
    | .ok w => w.readPlain texts

def read (w : CheckWords) : List String → Request
  | [] => w.request
  | text :: texts =>
    match Word.of text with
    | .separator => w.readPlain texts
    | .plain path =>
      match w.takePath path with
      | .error r => r
      | .ok w => w.read texts
    | .flags flags =>
      match checkLevel.readFlags w.verbose flags with
      | .error r => r
      | .ok verbose => { w with verbose }.read texts
    | .format (some value) =>
      match w.takeFormat value with
      | .error r => r
      | .ok w => w.read texts
    | .format none =>
      match texts with
      | [] => .misuse
      | value :: texts =>
        match w.takeFormat value with
        | .error r => r
        | .ok w => w.read texts

end CheckWords

/-- Reads the words of `contract`. -/
def readContract (verbose : Bool) : List String → Request
  | [] => .show Contract.text
  | text :: texts =>
    match Word.of text with
    | .separator => if texts = [] then .show Contract.text else .misuse
    | .flags flags =>
      match contractLevel.readFlags verbose flags with
      | .error r => r
      | .ok verbose => readContract verbose texts
    | .format _ | .plain _ => .misuse

/-- Reads the words of `help`. -/
def readHelp : List String → Request
  | [] => .show topHelp
  | ["check"] => .show checkHelp
  | ["contract"] => .show contractHelp
  | ["help"] => .show helpHelp
  | _ => .misuse

def readTop (verbose : Bool) : List String → Request
  | [] => .misuse
  | text :: texts =>
    match Word.of text with
    | .flags flags =>
      match topLevel.readFlags verbose flags with
      | .error r => r
      | .ok verbose => readTop verbose texts
    | .plain "check" => CheckWords.empty.read texts
    | .plain "contract" => readContract false texts
    | .plain "help" => readHelp texts
    | _ => .misuse

/-- What the words after the program's name ask for. -/
def parse (texts : List String) : Request := readTop false texts

/-! ## Answering -/

structure Exit where
  status : Nat
  stdout : String
  stderr : String
deriving DecidableEq, Repr

/-- How a program ends after a run: a failure is shown last, and an empty line after it. -/
def Exit.ofRun (r : RunResult) : Exit :=
  match r.failure with
  | none => ⟨0, r.stdout, r.stderr⟩
  | some f => ⟨1, r.stdout, r.stderr ++ f.notice.text ++ "\n"⟩

/-- What is said of words that do not belong together. -/
def misuseText : String := Report.unlines
  ["error: these arguments do not belong together", "", "For more information, try '--help'."]

def Request.answer (fs : FileSystem) : Request → Exit
  | .check path format => .ofRun (run fs path format)
  | .show text => ⟨0, text, ""⟩
  | .misuse => ⟨2, "", misuseText⟩

end SubscriberContract.CommandLine
