import SubscriberContract.Validation

/-!
# What validation adds

Every check only adds at the end of what was collected before, so a run is the concatenation of
what its steps add to nothing: `visit_eq_append` is the step, `validate_eq_append` and
`check_eq_flatMap` are the runs.
-/

namespace SubscriberContract

namespace Validation

theorem report_eq_append (collected : List Diagnostic) (found : Option Diagnostic) :
    report collected found = collected ++ found.toList := by
  cases found <;> simp [report]

/-- What a method is reported for, its signature resolved. -/
def methodReport (m : Method) (s : Signature) : List Diagnostic :=
  (ofQualifier m).toList ++
    match Contract.find? m.name with
    | none => [.of .unknownMethod m.span [m.name]]
    | some c => (ofParameters m s c).toList ++ (ofReturn m s c).toList

/-- What one turn of the loop over the methods adds. -/
def turn (resolve : Resolver) (m : Method) : List Diagnostic :=
  (resolve m).elim [] (methodReport m)

theorem visit_eq_append (resolve : Resolver) (collected : List Diagnostic) (m : Method) :
    visit resolve collected m = collected ++ turn resolve m := by
  unfold visit turn
  cases resolve m with
  | none => simp
  | some s =>
    unfold methodReport
    cases Contract.find? m.name <;> simp [report_eq_append]

/-- A loop whose turns only add at the end. -/
theorem foldl_eq_append_flatMap {α δ : Type} {step : List δ → α → List δ} {adds : α → List δ}
    (h : ∀ collected a, step collected a = collected ++ adds a) (as : List α)
    (collected : List δ) : as.foldl step collected = collected ++ as.flatMap adds := by
  induction as generalizing collected with
  | nil => simp
  | cons a as ih => rw [List.foldl_cons, ih, h, List.flatMap_cons, List.append_assoc]

end Validation

open Validation

/-- What validation adds, in the order of the checks. -/
def Service.findings (s : Service) (listeners : List Listener) (resolve : Resolver) :
    List Diagnostic :=
  listeners.flatMap (fun l => (ofListener l).toList) ++ (ofAnnotations s).toList ++
    (ofNotification s).toList ++ s.methods.flatMap (turn resolve)

theorem Service.validate_eq_append (s : Service) (listeners : List Listener) (resolve : Resolver)
    (collected : List Diagnostic) :
    s.validate listeners resolve collected = collected ++ s.findings listeners resolve := by
  unfold Service.validate Service.findings
  rw [foldl_eq_append_flatMap (visit_eq_append resolve), report_eq_append, report_eq_append,
    foldl_eq_append_flatMap fun found l => report_eq_append found (ofListener l)]
  simp

theorem CompilationUnit.check_eq_flatMap (u : CompilationUnit) :
    u.check = u.services.flatMap fun s => s.findings u.listeners embedded := by
  unfold CompilationUnit.check
  have hstep : ∀ collected (s : Service), s.validate u.listeners embedded collected =
      collected ++ s.findings u.listeners embedded :=
    fun collected s => s.validate_eq_append u.listeners embedded collected
  rw [foldl_eq_append_flatMap hstep, List.nil_append]

end SubscriberContract
