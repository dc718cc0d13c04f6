import SubscriberContract.Diagnostic
import SubscriberContract.Json.Format
import SubscriberContract.Exchange.CompilationUnit

/-!
# Diagnostics in JSON

The format that hosts store, and the object that a report writes on a line of its own.
-/

namespace SubscriberContract

open Json (Format)

def Severity.format : Format Severity := .choice all name

def Code.format : Format Code := .choice all label

def Diagnostic.format : Format Diagnostic :=
  .record "Diagnostic"
    (.required "code" Code.format <| .required "severity" Severity.format <|
      .required "span" Span.format <| .required "args" (.list .text) <|
      .required "message" .text <| .nullable "hint" (.optional .text) .done)
    (fun (code, severity, span, arguments, message, hint, ()) =>
      ⟨code, severity, span, arguments, message, hint⟩)
    fun d => (d.code, d.severity, d.span, d.arguments, d.message, d.hint, ())

/-- A diagnostic of the file at `path` as a report object, its members in alphabetical order. -/
def Diagnostic.reportTree (path : String) (d : Diagnostic) : Json :=
  .object
    [("arguments", .array (d.arguments.map .text)), ("code", .text d.code.label),
      ("file", .text path), ("hint", d.hint.elim .null .text), ("message", .text d.message),
      ("severity", .text d.severity.name), ("span_end", .natural d.span.stop.toNat),
      ("span_start", .natural d.span.start.toNat)]

end SubscriberContract
