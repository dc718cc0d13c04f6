import SubscriberContract.Proofs.Validation.Reports

/-!
# Acceptance is conformance

A service conforms when nothing about it calls for a report. The rules are stated without the
checks; `CompilationUnit.check_eq_nil_iff` says that the checks find nothing exactly in the units
whose services all conform.
-/

namespace SubscriberContract

/-- A method, of this signature, that the contract accepts. -/
structure Method.Conforms (m : Method) (s : Signature) : Prop where
  remote : .remote ∈ m.qualifiers
  callback : ∃ c ∈ Contract.callbacks, c.name = m.name ∧ s.params ≠ [] ∧
    (∀ t ∈ s.params, c.TakesParameter t) ∧ c.AllowsReturn s.result

/-- A service, beside these listeners, that the contract accepts. -/
structure Service.Conforms (s : Service) (listeners : List Listener) : Prop where
  unambiguous : ∀ l ∈ listeners, ¬ l.HasAmbiguousPair
  marked : ∃ a ∈ s.annotations, a.name = some "SubscriberServiceConfig"
  notified : ∃ m ∈ s.methods, Validation.sameUpToCase m.name "onEventNotification" = true
  methods : ∀ m ∈ s.methods, ∀ signature, m.signature = some signature → m.Conforms signature

namespace Validation

/-- A resolved method adds nothing exactly if it conforms. -/
theorem turn_eq_nil_iff (resolve : Resolver) (m : Method) :
    turn resolve m = [] ↔ ∀ s, resolve m = some s → m.Conforms s := by
  constructor
  · intro h s hs
    have hreport := methodReport_turn resolve m
    rw [h] at hreport
    generalize hds : ([] : List Diagnostic) = ds at hreport
    cases hreport with
    | unresolved hn => exact absurd (hn.symm.trans hs) nofun
    | unknown => simp at hds
    | callback hs' hc hn hq hp hr =>
      obtain rfl := Option.some.inj (hs.symm.trans hs')
      rw [List.nil_eq_append_iff, List.append_eq_nil_iff] at hds
      obtain ⟨rfl, rfl, rfl⟩ := hds
      cases hq with
      | remote hm =>
        cases hp with
        | accepted some all =>
          cases hr with
          | accepted ha => exact ⟨hm, _, hc, hn, some, all, ha⟩
  · intro h
    refine (methodReport_iff.mp ?_).symm
    match hs : resolve m with
    | none => exact .unresolved hs
    | some s =>
      obtain ⟨hm, c, hc, hn, some, all, ha⟩ := h s hs
      exact .callback hs hc hn (.remote hm) (.accepted some all) (.accepted ha)

theorem findings_eq_nil_iff (s : Service) (listeners : List Listener) :
    s.findings listeners embedded = [] ↔ s.Conforms listeners := by
  have hl : (listeners.flatMap fun l => (ofListener l).toList) = [] ↔
      ∀ l ∈ listeners, ¬ l.HasAmbiguousPair := by
    rw [ofListener_flatMap, List.map_eq_nil_iff, List.filter_eq_nil_iff]
    simp
  have ha : (ofAnnotations s).toList = [] ↔ s.IsMarked := by
    rw [ofAnnotations_toList]
    simp
  have hn : (ofNotification s).toList = [] ↔ s.HasNotification := by
    rw [ofNotification_toList]
    simp
  have hm : s.methods.flatMap (turn embedded) = [] ↔
      ∀ m ∈ s.methods, ∀ signature, m.signature = some signature → m.Conforms signature := by
    rw [List.flatMap_eq_nil_iff]
    exact forall₂_congr fun m _ => turn_eq_nil_iff embedded m
  rw [Service.findings, List.append_eq_nil_iff, List.append_eq_nil_iff, List.append_eq_nil_iff,
    hl, ha, hn, hm]
  constructor
  · rintro ⟨⟨⟨h₁, h₂⟩, h₃⟩, h₄⟩
    exact ⟨h₁, h₂, h₃, h₄⟩
  · rintro ⟨h₁, h₂, h₃, h₄⟩
    exact ⟨⟨⟨h₁, h₂⟩, h₃⟩, h₄⟩

end Validation

/-- **Acceptance is conformance.** A unit has no diagnostics exactly if each of its services
conforms; a unit without services is accepted whatever its listeners are. -/
theorem CompilationUnit.check_eq_nil_iff (u : CompilationUnit) :
    u.check = [] ↔ ∀ s ∈ u.services, s.Conforms u.listeners := by
  rw [check_eq_flatMap, List.flatMap_eq_nil_iff]
  exact forall₂_congr fun s _ => Validation.findings_eq_nil_iff s u.listeners

end SubscriberContract
