import SubscriberContract.Exchange.TypeShape
import SubscriberContract.Model.CompilationUnit

/-!
# Unit files

How each part of a compilation unit stands in JSON. The members of every record are listed once, in
the order in which they are written.
-/

namespace SubscriberContract

open Json (FromTree Format Tagged Members)

/-- A variant kept as a tree: its name, or an object with the name and null or nothing. -/
def choiceFromTree {α : Type} (all : List α) (name : α → String) : FromTree α
  | .text t => Format.variant all name t
  | .object [(t, value)] => do
    let a ← Format.variant all name t
    match value with
    | .null | .object [] => return a
    | j => .error (.wrongType j.found "unit")
  | .object _ => .error (.wrongValue .map "map with a single key")
  | j => .error (.wrongType j.found "string or map")

/-- The members start and end are read in either order of size. -/
def Span.format : Format Span :=
  .record "RawSpan" (.required "start" .word <| .required "end" .word .done)
    (fun (start, stop, ()) => .between start stop) fun s => (s.start, s.stop, ())

def Qualifier.format : Format Qualifier := .choice all keyword

def Annotation.format : Format Annotation :=
  .record "Annotation"
    (.defaulted "name" (.optional .text) none <| .defaulted "module" (.optional .text) none .done)
    (fun (name, origin, ()) => ⟨name, origin⟩) fun a => (a.name, a.origin, ())

def Signature.format : Format Signature :=
  .record "MethodSignature"
    (.defaulted "params" (.list TypeShape.format) [] <|
      .defaulted "returnType" (.optional TypeShape.format) none .done)
    (fun (params, result, ()) => ⟨params, result⟩) fun s => (s.params, s.result, ())

def Method.format : Format Method :=
  .record "MethodDeclaration"
    (.required "name" .text <| .defaulted "qualifiers" (.list Qualifier.format) [] <|
      .required "span" Span.format <|
      .defaulted "signature" (.optional Signature.format) none .done)
    (fun (name, qualifiers, span, signature, ()) => ⟨name, qualifiers, span, signature⟩)
    fun m => (m.name, m.qualifiers, m.span, m.signature, ())

def Service.format : Format Service :=
  .record "ServiceDeclaration"
    (.required "span" Span.format <| .defaulted "annotations" (.list Annotation.format) [] <|
      .defaulted "methods" (.list Method.format) [] .done)
    (fun (span, annotations, methods, ()) => ⟨span, annotations, methods⟩)
    fun s => (s.span, s.annotations, s.methods, ())

def ExpressionKind.format : Format ExpressionKind := .choice all name

namespace Argument

def build (variant : String) : FromTree Argument := fun j =>
  let kind := choiceFromTree ExpressionKind.all ExpressionKind.name
  match variant with
  | "positional" => do
    let (e, ()) ← (Members.required "expression" kind .done).ofTree
      "struct variant Argument::Positional" j
    return .positional e
  | "named" => do
    let (name, e, ()) ← (Members.required "name" textFromTree <|
      Members.required "expression" kind .done).ofTree "struct variant Argument::Named" j
    return .named name e
  | _ => do
    let (e, ()) ← (Members.required "expression" kind .done).ofTree
      "struct variant Argument::Rest" j
    return .rest e

def tree : Argument → Json
  | .positional e => .object [("form", .text "positional"), ("expression", .text e.name)]
  | .named name e => .object
    [("form", .text "named"), ("name", .text name), ("expression", .text e.name)]
  | .rest e => .object [("form", .text "rest"), ("expression", .text e.name)]

/-- The tag of an argument is its `form`. -/
def format : Format Argument :=
  Tagged.format ⟨"form", "Argument", ["positional", "named", "rest"], build⟩ tree

end Argument

def Listener.format : Format Listener :=
  .record "ListenerConstruction"
    (.required "span" Span.format <|
      .defaulted "arguments" (.optional (.list Argument.format)) none .done)
    (fun (span, arguments, ()) => ⟨span, arguments⟩) fun l => (l.span, l.arguments, ())

def CompilationUnit.format : Format CompilationUnit :=
  .record "CompilationUnit"
    (.defaulted "source" (.optional .text) none <|
      .defaulted "listeners" (.list Listener.format) [] <|
      .defaulted "services" (.list Service.format) [] .done)
    (fun (source, listeners, services, ()) => ⟨source, listeners, services⟩)
    fun u => (u.source, u.listeners, u.services, ())

end SubscriberContract
