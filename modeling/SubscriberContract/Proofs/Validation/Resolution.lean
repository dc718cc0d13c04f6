import Mathlib.Data.List.Forall2
import SubscriberContract.Proofs.Validation.Collected

/-!
# Where signatures come from

A check may look at the whole method, and so at the signature that the method carries. None does:
what is reported depends on names, qualifiers and spans, and on signatures as the resolver gives
them. `Service.findings_congr` says so of two services that are declared alike and get the same
answers; moving the answers into the methods is a special case, and so is taking them from a table.
-/

namespace SubscriberContract

/-- The method with another signature, or with none. -/
def Method.withSignature (m : Method) (signature : Option Signature) : Method :=
  { m with signature }

/-- The service whose methods carry what the resolver answers for them. -/
def Service.resolved (s : Service) (resolve : Resolver) : Service :=
  { s with methods := s.methods.map fun m => m.withSignature (resolve m) }

/-- Two methods that differ at most in the signatures they carry. -/
def Method.DeclaredAlike (m m' : Method) : Prop := m' = m.withSignature m'.signature

/-- Two services that differ at most in the signatures of their methods, and two resolvers that
answer alike for each pair of methods. -/
structure Service.ResolvedAlike (s s' : Service) (resolve resolve' : Resolver) : Prop where
  span : s'.span = s.span
  annotations : s'.annotations = s.annotations
  methods : List.Forall₂ (fun m m' => m.DeclaredAlike m' ∧ resolve' m' = resolve m)
    s.methods s'.methods

namespace Validation

theorem ofQualifier_withSignature (m : Method) (carried : Option Signature) :
    ofQualifier (m.withSignature carried) = ofQualifier m := rfl

theorem ofParameters_withSignature (m : Method) (carried : Option Signature) (s : Signature)
    (c : Callback) : ofParameters (m.withSignature carried) s c = ofParameters m s c := rfl

theorem ofReturn_withSignature (m : Method) (carried : Option Signature) (s : Signature)
    (c : Callback) : ofReturn (m.withSignature carried) s c = ofReturn m s c := rfl

theorem methodReport_withSignature (m : Method) (carried : Option Signature) (s : Signature) :
    methodReport (m.withSignature carried) s = methodReport m s := by
  unfold methodReport
  rw [ofQualifier_withSignature]
  simp only [ofParameters_withSignature, ofReturn_withSignature]
  rfl

variable {m m' : Method} {s s' : Service} {resolve resolve' : Resolver}

/-- The step: one turn of the loop over the methods. -/
theorem turn_congr (h : m.DeclaredAlike m') (hr : resolve' m' = resolve m) :
    turn resolve' m' = turn resolve m := by
  unfold turn
  rw [hr]
  cases resolve m with
  | none => rfl
  | some signature =>
    show methodReport m' signature = methodReport m signature
    rw [h, methodReport_withSignature]

/-- The run: the loop over the methods, turn by turn. -/
theorem turns_congr {ms ms' : List Method}
    (h : List.Forall₂ (fun m m' => m.DeclaredAlike m' ∧ resolve' m' = resolve m) ms ms') :
    ms'.flatMap (turn resolve') = ms.flatMap (turn resolve) := by
  induction h with
  | nil => rfl
  | cons h _ ih => rw [List.flatMap_cons, List.flatMap_cons, ih, turn_congr h.1 h.2]

theorem ofAnnotations_congr (h : s.ResolvedAlike s' resolve resolve') :
    ofAnnotations s' = ofAnnotations s := by
  unfold ofAnnotations
  rw [h.annotations, h.span]

theorem names_congr (h : s.ResolvedAlike s' resolve resolve') :
    s'.methods.map (·.name) = s.methods.map (·.name) := by
  have hm := h.methods
  generalize s.methods = ms, s'.methods = ms' at hm
  induction hm with
  | nil => rfl
  | cons h _ ih =>
    rw [List.map_cons, List.map_cons, ih, h.1]
    rfl

theorem ofNotification_congr (h : s.ResolvedAlike s' resolve resolve') :
    ofNotification s' = ofNotification s := by
  have hany (t : Service) : (t.methods.any fun m => sameUpToCase m.name Contract.notification) =
      (t.methods.map (·.name)).any (sameUpToCase · Contract.notification) := by
    rw [List.any_map]
    rfl
  unfold ofNotification
  rw [hany, hany, names_congr h, h.span]

end Validation

open Validation

namespace Service

/-- Services that are declared alike and get the same answers are reported alike. -/
theorem findings_congr {s s' : Service} {resolve resolve' : Resolver}
    (h : s.ResolvedAlike s' resolve resolve') (listeners : List Listener) :
    s'.findings listeners resolve' = s.findings listeners resolve := by
  unfold findings
  rw [ofAnnotations_congr h, ofNotification_congr h, turns_congr h.methods]

theorem resolvedAlike_resolved (s : Service) (resolve : Resolver) :
    s.ResolvedAlike (s.resolved resolve) resolve embedded where
  span := rfl
  annotations := rfl
  methods := by
    show List.Forall₂ _ _ (s.methods.map _)
    rw [List.forall₂_map_right_iff]
    exact List.forall₂_same.mpr fun m _ => ⟨rfl, rfl⟩

theorem resolvedAlike_of_answers {s : Service} {resolve resolve' : Resolver}
    (h : ∀ m ∈ s.methods, resolve' m = resolve m) : s.ResolvedAlike s resolve resolve' where
  span := rfl
  annotations := rfl
  methods := List.forall₂_same.mpr fun m hm => ⟨rfl, h m hm⟩

theorem validate_embedded (s : Service) (listeners : List Listener) (collected : List Diagnostic) :
    s.validate listeners embedded collected = collected ++ s.check listeners := by
  unfold check
  rw [validate_eq_append, validate_eq_append, List.nil_append]

/-- **Signatures come from the resolver alone.** Validation reports what the checker reports for the
service whose methods carry the resolver's answers. So signatures in the methods may be changed or
removed wherever the resolver's answers stay, and a table of names and the signatures in the methods
give the same reports where they agree on every declared method. -/
theorem validate_eq_check_resolved (s : Service) (listeners : List Listener) (resolve : Resolver)
    (collected : List Diagnostic) :
    s.validate listeners resolve collected =
      collected ++ (s.resolved resolve).check listeners ∧
    (∀ s' : Service, s.ResolvedAlike s' resolve resolve →
      s'.validate listeners resolve collected = s.validate listeners resolve collected) ∧
    ∀ table : SymbolTable, (∀ m ∈ s.methods, table.lookup m.name = m.signature) →
      s.validate listeners table.resolver collected = collected ++ s.check listeners := by
  refine ⟨?_, fun s' h => ?_, fun table h => ?_⟩
  · rw [← validate_embedded, validate_eq_append, validate_eq_append,
      findings_congr (s.resolvedAlike_resolved resolve)]
  · rw [validate_eq_append, validate_eq_append, findings_congr h]
  · have hanswers : s.ResolvedAlike s embedded table.resolver := resolvedAlike_of_answers h
    rw [← validate_embedded, validate_eq_append, validate_eq_append, findings_congr hanswers]

/-- A handler that returns what it may not is reported alike whether its signature stands in the
method or in a table only. -/
theorem validate_eq_check_resolved_handler :
    let signature : Signature :=
      ⟨[.reference (some "websub") "ContentDistributionMessage"], some (.other "string")⟩
    let m : Method := ⟨"onEventNotification", [.remote], .between 30 60, some signature⟩
    let s : Service := ⟨.between 0 100, [.named Contract.marker], [m]⟩
    let s' : Service := { s with methods := [m.withSignature none] }
    let table : SymbolTable := [("onEventNotification", signature)]
    s.ResolvedAlike s' table.resolver table.resolver ∧
      (∀ m ∈ s.methods, table.lookup m.name = m.signature) ∧
      s'.validate [] table.resolver [] = s.validate [] table.resolver [] ∧
      s.validate [] table.resolver [] = s.check [] ∧
      (s.check []).map (·.code) = [.invalidReturn] := by
  intro signature m s s' table
  have halike : s.ResolvedAlike s' table.resolver table.resolver :=
    ⟨rfl, rfl, .cons ⟨rfl, rfl⟩ .nil⟩
  have htable : ∀ m ∈ s.methods, table.lookup m.name = m.signature :=
    List.forall_mem_singleton.mpr (by decide)
  obtain ⟨-, hcarried, hnamed⟩ := s.validate_eq_check_resolved [] table.resolver []
  exact ⟨halike, htable, hcarried s' halike, hnamed table htable, by decide⟩

end Service
end SubscriberContract
