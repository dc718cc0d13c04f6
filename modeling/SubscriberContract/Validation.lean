import SubscriberContract.Contract
import SubscriberContract.Diagnostic
import SubscriberContract.Model.CompilationUnit

/-!
# Validation

The checks of a service against the callback contract, in the order in which they report:
listeners, annotation, presence of the notification callback, then each method whose signature is
resolved. No check stops another one. Signatures come from a `Resolver` only.
-/

namespace SubscriberContract

/-- Gives the signature of a method, or nothing where it cannot be resolved. -/
abbrev Resolver := Method → Option Signature

namespace Validation

/-- The signatures that the methods carry. -/
def embedded : Resolver := Method.signature

/-- Signatures by method name, each name at most once. -/
abbrev SymbolTable := List (String × Signature)

/-- Enters a signature in place of an earlier one of that name. -/
def SymbolTable.enter (table : SymbolTable) (name : String) (s : Signature) : SymbolTable :=
  (name, s) :: table.filter (·.1 != name)

def SymbolTable.resolver (table : SymbolTable) : Resolver := fun m => table.lookup m.name

def ofListener (l : Listener) : Option Diagnostic :=
  if l.isAmbiguous then some (.of .ambiguousListener l.span []) else none

def ofAnnotations (s : Service) : Option Diagnostic :=
  if s.annotations.any fun a => a.name == some Contract.marker then none
  else some (.of .missingMarker s.span [])

/-- Equality up to the case of ASCII letters. -/
def sameUpToCase (a b : String) : Bool := a.toList.map Char.toLower == b.toList.map Char.toLower

/-- A handler misspelled in case counts as present here; it is reported as an unknown method. -/
def ofNotification (s : Service) : Option Diagnostic :=
  if s.methods.any fun m => sameUpToCase m.name Contract.notification then none
  else some (.of .missingNotification s.span [])

def ofQualifier (m : Method) : Option Diagnostic :=
  if m.isRemote then none else some (.of .missingRemote m.span [])

/-- Parameters are matched by description, so a union of one member counts as that member. -/
def ofParameters (m : Method) (s : Signature) (c : Callback) : Option Diagnostic :=
  if s.params = [] then
    if c.parameters = [] then none
    else some (.of .missingParameter m.span [m.name, String.join c.parameters])
  else
    match (s.params.map TypeShape.description).filter (!c.acceptsParameter ·) with
    | [] => none
    | rejected => some (.of .invalidParameter m.span [",".intercalate rejected, m.name])

mutual

/-- Whether some alternative of a return type is outside the callback's. -/
def rejects (c : Callback) : TypeShape → Bool
  | .union members => rejectsAny c members
  | .reference origin name => !c.acceptsReturn (qualify origin name)
  | .error origin signature => !c.acceptsReturn (TypeShape.errorName origin signature)
  | .nil => !c.nilAllowed
  | .other _ => true

def rejectsAny (c : Callback) : List TypeShape → Bool
  | [] => false
  | t :: ts => rejects c t || rejectsAny c ts

end

def ofReturn (m : Method) (s : Signature) (c : Callback) : Option Diagnostic :=
  let missing := Diagnostic.of .missingReturn m.span [m.name, c.returnsText]
  match s.result with
  | none => if c.nilAllowed then none else some missing
  | some t =>
    if t.isNil && !c.nilAllowed then some missing
    else if rejects c t then some (.of .invalidReturn m.span [t.description, m.name])
    else none

/-- Adds what a check found, if anything, to what was collected before. -/
def report (collected : List Diagnostic) : Option Diagnostic → List Diagnostic
  | none => collected
  | some d => collected ++ [d]

/-- Checks one method. Without a signature it is passed over, and a name outside the contract ends
its checks. -/
def visit (resolve : Resolver) (collected : List Diagnostic) (m : Method) : List Diagnostic :=
  match resolve m with
  | none => collected
  | some s =>
    let collected := report collected (ofQualifier m)
    match Contract.find? m.name with
    | none => report collected (some (.of .unknownMethod m.span [m.name]))
    | some c => report (report collected (ofParameters m s c)) (ofReturn m s c)

end Validation

open Validation in
/-- Checks a service and its listeners, and adds what is found to the diagnostics already
collected. -/
def Service.validate (s : Service) (listeners : List Listener) (resolve : Resolver)
    (collected : List Diagnostic) : List Diagnostic :=
  let collected := listeners.foldl (fun found l => report found (ofListener l)) collected
  let collected := report collected (ofAnnotations s)
  let collected := report collected (ofNotification s)
  s.methods.foldl (visit resolve) collected

/-- The diagnostics of a service whose methods carry their signatures. -/
def Service.check (s : Service) (listeners : List Listener) : List Diagnostic :=
  s.validate listeners Validation.embedded []

/-- The diagnostics of a unit; the listeners are looked at once for each service. -/
def CompilationUnit.check (u : CompilationUnit) : List Diagnostic :=
  u.services.foldl (fun collected s => s.validate u.listeners Validation.embedded collected) []

end SubscriberContract
