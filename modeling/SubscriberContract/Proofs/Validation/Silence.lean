import SubscriberContract.Proofs.Validation.Reports

/-!
# Where the checks stay silent

The presence check takes a handler misspelled in case for present and leaves it to the name check,
which only looks at resolved methods. The return check looks for a rejected alternative, since every
type has one where none is allowed; but a type made of empty unions has no alternative at all. Here
it is said of both exactly when nothing is reported.
-/

namespace SubscriberContract

open Validation

/-! ## Handlers misspelled in case -/

/-- A report that the service lacks the handler, or that a method has a name of its own. -/
def Diagnostic.IsAboutNames (d : Diagnostic) : Prop :=
  d.code = .missingNotification ∨ d.code = .unknownMethod

instance (d : Diagnostic) : Decidable d.IsAboutNames := by
  unfold Diagnostic.IsAboutNames; infer_instance

namespace Validation

theorem QualifierReport.not_about_names {m : Method} {ds : List Diagnostic}
    (h : QualifierReport m ds) : ∀ d ∈ ds, ¬ d.IsAboutNames := by
  cases h <;> simp [Diagnostic.IsAboutNames, Diagnostic.of]

theorem ParameterReport.not_about_names {m : Method} {s : Signature} {c : Callback}
    {ds : List Diagnostic} (h : ParameterReport m s c ds) : ∀ d ∈ ds, ¬ d.IsAboutNames := by
  cases h <;> simp [Diagnostic.IsAboutNames, Diagnostic.of]

theorem ReturnReport.not_about_names {m : Method} {s : Signature} {c : Callback}
    {ds : List Diagnostic} (h : ReturnReport m s c ds) : ∀ d ∈ ds, ¬ d.IsAboutNames := by
  cases h <;> simp [Diagnostic.IsAboutNames, Diagnostic.of]

/-- The name of a method is reported exactly if the method is resolved and no callback. -/
theorem exists_about_names_turn (resolve : Resolver) (m : Method) :
    (∃ d ∈ turn resolve m, d.IsAboutNames) ↔
      (resolve m).isSome ∧ ∀ c ∈ Contract.callbacks, c.name ≠ m.name := by
  have hreport := methodReport_turn resolve m
  generalize turn resolve m = ds at hreport
  cases hreport with
  | unresolved h => simp [h]
  | unknown h hn hq =>
    refine iff_of_true ⟨_, List.mem_append_right _ List.mem_cons_self, .inr rfl⟩ ⟨?_, hn⟩
    rw [h]
    rfl
  | callback h hc hn hq hp hr =>
    refine iff_of_false ?_ fun hall => hall.2 _ hc hn
    rintro ⟨d, hd, habout⟩
    rcases List.mem_append.mp hd with hd | hd
    · exact hq.not_about_names d hd habout
    · rcases List.mem_append.mp hd with hd | hd
      · exact hp.not_about_names d hd habout
      · exact hr.not_about_names d hd habout

theorem not_about_names_ofListener (ls : List Listener) :
    ∀ d ∈ ls.flatMap fun l => (ofListener l).toList, ¬ d.IsAboutNames := by
  rw [ofListener_flatMap]
  intro d hd
  obtain ⟨l, -, rfl⟩ := List.mem_map.mp hd
  simp [Diagnostic.IsAboutNames, Diagnostic.of]

theorem not_about_names_ofAnnotations (s : Service) :
    ∀ d ∈ (ofAnnotations s).toList, ¬ d.IsAboutNames := by
  rw [ofAnnotations_toList]
  split_ifs <;> simp [Diagnostic.IsAboutNames, Diagnostic.of]

theorem exists_about_names_ofNotification (s : Service) :
    (∃ d ∈ (ofNotification s).toList, d.IsAboutNames) ↔ ¬ s.HasNotification := by
  rw [ofNotification_toList]
  split_ifs with h <;> simp [h, Diagnostic.IsAboutNames, Diagnostic.of]

/-- A callback's name is not the handler's name misspelled in case. -/
theorem eq_notification_of_sameUpToCase : ∀ c ∈ Contract.callbacks,
    sameUpToCase c.name Contract.notification = true → c.name = Contract.notification := by
  decide

end Validation

namespace Service

variable (s : Service) (listeners : List Listener) (resolve : Resolver)

theorem exists_about_names_findings : (∃ d ∈ s.findings listeners resolve, d.IsAboutNames) ↔
    (∀ m ∈ s.methods, sameUpToCase m.name Contract.notification = false) ∨
      ∃ m ∈ s.methods, (resolve m).isSome ∧ ∀ c ∈ Contract.callbacks, c.name ≠ m.name := by
  have habsent : ¬ s.HasNotification ↔
      ∀ m ∈ s.methods, sameUpToCase m.name Contract.notification = false := by
    simp [HasNotification]
  rw [← habsent, ← exists_about_names_ofNotification]
  constructor
  · rintro ⟨d, hd, habout⟩
    rw [findings, List.append_assoc, List.append_assoc] at hd
    rcases List.mem_append.mp hd with hd | hd
    · exact absurd habout (not_about_names_ofListener listeners d hd)
    rcases List.mem_append.mp hd with hd | hd
    · exact absurd habout (not_about_names_ofAnnotations s d hd)
    rcases List.mem_append.mp hd with hd | hd
    · exact .inl ⟨d, hd, habout⟩
    · obtain ⟨m, hm, hd⟩ := List.mem_flatMap.mp hd
      exact .inr ⟨m, hm, (exists_about_names_turn resolve m).mp ⟨d, hd, habout⟩⟩
  · rintro (⟨d, hd, habout⟩ | ⟨m, hm, hunknown⟩)
    · exact ⟨d, List.mem_append_left _ (List.mem_append_right _ hd), habout⟩
    · obtain ⟨d, hd, habout⟩ := (exists_about_names_turn resolve m).mpr hunknown
      exact ⟨d, List.mem_append_right _ (List.mem_flatMap_of_mem hm hd), habout⟩

/-- Where nothing is said of names, a handler misspelled in case is one that is not resolved: the
name check would report it. -/
theorem unresolved_of_not_about_names {m : Method} (hm : m ∈ s.methods)
    (hne : m.name ≠ Contract.notification)
    (hcase : sameUpToCase m.name Contract.notification = true)
    (h : ¬ ∃ d ∈ s.findings listeners resolve, d.IsAboutNames) : resolve m = none := by
  rw [exists_about_names_findings, not_or] at h
  by_contra hsome
  refine h.2 ⟨m, hm, Option.isSome_iff_ne_none.mpr hsome, fun c hc hname => hne ?_⟩
  rw [← hname] at hcase ⊢
  exact eq_notification_of_sameUpToCase c hc hcase

/-- **What is said of names.** Validation reports a missing handler or an unknown method exactly if
no method has the handler's name up to case, or some resolved method has the name of no callback.
So where no method has the exact name there is such a report, unless there are methods that have it
up to case, and the resolver resolves none of them. A method that is not resolved counts for
presence, and is otherwise skipped. -/
theorem validate_about_names (collected : List Diagnostic) :
    ∃ found, s.validate listeners resolve collected = collected ++ found ∧
      ((∃ d ∈ found, d.IsAboutNames) ↔
        (∀ m ∈ s.methods, sameUpToCase m.name Contract.notification = false) ∨
          ∃ m ∈ s.methods, (resolve m).isSome ∧ ∀ c ∈ Contract.callbacks, c.name ≠ m.name) ∧
      ((∀ m ∈ s.methods, m.name ≠ Contract.notification) →
        (∃ d ∈ found, d.IsAboutNames) ∨
          (∃ m ∈ s.methods, sameUpToCase m.name Contract.notification = true) ∧
            ∀ m ∈ s.methods, sameUpToCase m.name Contract.notification = true →
              resolve m = none) := by
  have hiff := s.exists_about_names_findings listeners resolve
  refine ⟨_, s.validate_eq_append listeners resolve collected, hiff, fun hne => ?_⟩
  by_cases habout : ∃ d ∈ s.findings listeners resolve, d.IsAboutNames
  · exact .inl habout
  · refine .inr ⟨?_, fun m hm hcase =>
      s.unresolved_of_not_about_names listeners resolve hm (hne m hm) hcase habout⟩
    have hpresent := (not_or.mp (mt hiff.mpr habout)).1
    simpa using hpresent

/-- A marked service whose only method is a handler misspelled in case, which no signature is known
of, gets no report at all. -/
theorem validate_unresolved_misspelling :
    let m : Method := ⟨"OnEventNotification", [.remote], .between 10 40, none⟩
    let s : Service := ⟨.between 0 100, [.named Contract.marker], [m]⟩
    (∀ m ∈ s.methods, m.name ≠ Contract.notification) ∧ s.validate [] embedded [] = [] := by
  decide

end Service

/-! ## Return types without alternatives -/

/-- **Required returns.** Of a callback that must return something the return check accepts exactly
the declared types all of whose alternatives are among the callback's. Such a type has one of them
unless it has no alternatives at all: these are the types that slip through. -/
theorem Callback.ofReturn_required (m : Method) (s : Signature) (c : Callback)
    (hn : c.nilAllowed = false) :
    (ofReturn m s c = none ↔
      ∃ t, s.result = some t ∧ ∀ leaf ∈ t.leaves, ∃ name ∈ c.returns, leaf.IsNamed name) ∧
    ((ofReturn m s c = none ∧
        ¬ ∃ t, s.result = some t ∧ ∃ leaf ∈ t.leaves, ∃ name ∈ c.returns, leaf.IsNamed name) ↔
      ∃ t, s.result = some t ∧ t.leaves = []) := by
  have hleaf : ∀ leaf, c.AllowsLeaf leaf ↔ ∃ name ∈ c.returns, leaf.IsNamed name := by
    intro leaf
    simp [AllowsLeaf, hn]
  rw [ofReturn_eq_none_iff]
  cases s.result with
  | none => simp [AllowsReturn, hn]
  | some t =>
    have hallows : c.AllowsReturn (some t) ↔
        ∀ leaf ∈ t.leaves, ∃ name ∈ c.returns, leaf.IsNamed name :=
      forall₂_congr fun leaf _ => hleaf leaf
    rw [hallows]
    refine ⟨by simp, ?_⟩
    constructor
    · rintro ⟨hall, hnone⟩
      refine ⟨t, rfl, List.eq_nil_iff_forall_not_mem.mpr fun leaf hl => hnone ?_⟩
      exact ⟨t, rfl, leaf, hl, hall leaf hl⟩
    · rintro ⟨t', ht, hnil⟩
      obtain rfl := Option.some.inj ht
      simp [hnil]

/-- A single declared name among the returns of the verification callback is accepted. -/
theorem Callback.ofReturn_required_success :
    let success : TypeShape := .reference (some "websub") "SubscriptionVerificationSuccess"
    let m : Method := ⟨Contract.onVerification.name, [.remote], .between 50 90, none⟩
    Contract.onVerification.nilAllowed = false ∧
      ofReturn m ⟨[], some success⟩ Contract.onVerification = none := by
  intro success m
  have hrequired := ofReturn_required m ⟨[], some success⟩ Contract.onVerification rfl
  refine ⟨rfl, hrequired.1.mpr ⟨success, rfl, fun leaf hl => ?_⟩⟩
  obtain rfl := List.mem_singleton.mp hl
  exact ⟨"websub:SubscriptionVerificationSuccess", by decide, rfl⟩

/-- A union of two empty unions is accepted for the verification callback, and none of its
alternatives is one of the callback's. -/
theorem Callback.ofReturn_hollow_union :
    let hollow : TypeShape := .union [.union [], .union []]
    let m : Method := ⟨Contract.onVerification.name, [.remote], .between 50 90, none⟩
    Contract.onVerification ∈ Contract.callbacks ∧ Contract.onVerification.nilAllowed = false ∧
      ofReturn m ⟨[], some hollow⟩ Contract.onVerification = none ∧
      ¬ ∃ leaf ∈ hollow.leaves, ∃ name ∈ Contract.onVerification.returns, leaf.IsNamed name := by
  intro hollow m
  have hleaves : hollow.leaves = [] := rfl
  refine ⟨by decide, rfl, by decide, ?_⟩
  rintro ⟨leaf, hl, -⟩
  rw [hleaves] at hl
  cases hl

end SubscriberContract
