import SubscriberContract.Model.Span

/-!
# Diagnostics

A diagnostic has a stable code, and its message is built from the code and an ordered list of
arguments, so a host can build it anew.
-/

namespace SubscriberContract

inductive Severity
  | error | warning
deriving DecidableEq, Repr

namespace Severity

def name : Severity → String
  | .error => "error"
  | .warning => "warning"

def all : List Severity := [.error, .warning]

end Severity

/-- The violations that the checks report. -/
inductive Code
  | missingMarker | missingRemote | missingNotification | unknownMethod | invalidParameter
  | missingParameter | invalidReturn | missingReturn | ambiguousListener
deriving DecidableEq, Repr

namespace Code

def all : List Code :=
  [.missingMarker, .missingRemote, .missingNotification, .unknownMethod, .invalidParameter,
    .missingParameter, .invalidReturn, .missingReturn, .ambiguousListener]

/-- The code as reports print it. -/
def label : Code → String
  | .missingMarker => "WEBSUB_101"
  | .missingRemote => "WEBSUB_102"
  | .missingNotification => "WEBSUB_103"
  | .unknownMethod => "WEBSUB_104"
  | .invalidParameter => "WEBSUB_105"
  | .missingParameter => "WEBSUB_106"
  | .invalidReturn => "WEBSUB_107"
  | .missingReturn => "WEBSUB_108"
  | .ambiguousListener => "WEBSUB_109"

/-- The place of a code in the order of labels. -/
def rank (c : Code) : Nat := c.ctorIdx

/-- The severity before any demotion. -/
def severity (_ : Code) : Severity := .error

/-- How many arguments the message of a code uses. -/
def arity : Code → Nat
  | .missingMarker | .missingRemote | .missingNotification | .ambiguousListener => 0
  | .unknownMethod => 1
  | .invalidParameter | .missingParameter | .invalidReturn | .missingReturn => 2

/-- The message of a code; a missing argument is left empty. -/
def message (c : Code) (arguments : List String) : String :=
  let first := arguments[0]?.getD ""
  let second := arguments[1]?.getD ""
  match c with
  | .missingMarker =>
    "subscriber service should have `websub:SubscriberServiceConfig` annotation"
  | .missingRemote => "subscriber service should only implement remote methods"
  | .missingNotification => "subscriber service should implement `onEventNotification` method"
  | .unknownMethod => s!"`{first}` method is not allowed in subscriber service declaration"
  | .invalidParameter => s!"`{first}` type parameters are not allowed for `{second}` method"
  | .missingParameter =>
    s!"`{first}` method should have parameters of following types: `{second}`"
  | .invalidReturn => s!"`{first}` type is not allowed to be returned from `{second}` method"
  | .missingReturn => s!"`{first}` method should have return type of following types: `{second}`"
  | .ambiguousListener =>
    "listener should be initialised with either a port or an `http:Listener` " ++
      "and an optional `websub:ListenerConfiguration`"

/-- A suggestion for mending the violation. -/
def hint : Code → String
  | .missingMarker =>
    "Annotate the service with `@websub:SubscriberServiceConfig \x7b ... \x7d`"
  | .missingRemote => "Declare the method as `remote function`"
  | .missingNotification =>
    "Add `remote function onEventNotification(websub:ContentDistributionMessage event)`"
  | .unknownMethod =>
    "Only `onSubscriptionVerification`, `onSubscriptionValidationDenied` " ++
      "and `onEventNotification` may be declared"
  | .invalidParameter | .missingParameter =>
    "Each callback takes exactly the parameter type listed in the callback contract"
  | .invalidReturn | .missingReturn =>
    "Return one of the types listed for this callback in the callback contract"
  | .ambiguousListener => "Pass a port number or an `http:Listener` as the first argument"

end Code

structure Diagnostic where
  code : Code
  severity : Severity
  span : Span
  /-- The arguments that the message was built from. -/
  arguments : List String
  message : String
  hint : Option String
deriving DecidableEq

namespace Diagnostic

/-- The diagnostic of a code at a span, with the code's own severity, message and hint. -/
def of (code : Code) (span : Span) (arguments : List String) : Diagnostic :=
  ⟨code, code.severity, span, arguments, code.message arguments, some code.hint⟩

def isError (d : Diagnostic) : Bool := d.severity == .error

/-- The one-line text of a diagnostic. -/
def display (d : Diagnostic) : String :=
  s!"{d.severity.name} [{d.code.label}]: {d.message}"

/-- Reports the listed codes as warnings. -/
def demote (warn : List Code) (d : Diagnostic) : Diagnostic :=
  if warn.contains d.code then { d with severity := .warning } else d

end Diagnostic
end SubscriberContract
