import Mathlib.Data.List.Forall2
import SubscriberContract.Proofs.Validation.Acceptance
import SubscriberContract.Proofs.Validation.Collected

/-!
# What is reported, in which order

For each check the possible reports are listed with the conditions under which they arise. The
conditions of one check exclude each other, so each relation gives exactly one report. The main
statement `Service.validate_reports` puts them in order: the diagnostics collected before, then
listeners, annotation and notification, then one segment for each method.
-/

namespace SubscriberContract

/-- An expression that could stand for a port, a listener or a configuration alike. -/
def Argument.IsAmbiguous (a : Argument) : Prop :=
  a.expression = .nameReference ∨ a.expression = .mappingConstructor

instance (a : Argument) : Decidable a.IsAmbiguous := by unfold Argument.IsAmbiguous; infer_instance

/-- The construction has two arguments or more, and the first two are both ambiguous. -/
def Listener.HasAmbiguousPair (l : Listener) : Prop :=
  ∃ first second rest, l.arguments = some (first :: second :: rest) ∧ first.IsAmbiguous ∧
    second.IsAmbiguous

/-- Some annotation has the marker's name, whatever module it comes from. -/
def Service.IsMarked (s : Service) : Prop := ∃ a ∈ s.annotations, a.name = some Contract.marker

/-- Some method, resolved or not, has the notification's name up to the case of ASCII letters. -/
def Service.HasNotification (s : Service) : Prop :=
  ∃ m ∈ s.methods, Validation.sameUpToCase m.name Contract.notification = true

theorem ExpressionKind.isAmbiguous_iff (k : ExpressionKind) :
    k.isAmbiguous = true ↔ k = .nameReference ∨ k = .mappingConstructor := by
  cases k <;> decide

theorem Listener.isAmbiguous_iff (l : Listener) : l.isAmbiguous = true ↔ l.HasAmbiguousPair := by
  unfold Listener.isAmbiguous Listener.HasAmbiguousPair Argument.IsAmbiguous
  split
  · next a b rest h => simp [h, ExpressionKind.isAmbiguous_iff]
  · next h =>
    refine iff_of_false (by simp) ?_
    rintro ⟨a, b, rest, hl, -⟩
    exact h a b rest hl

instance (l : Listener) : Decidable l.HasAmbiguousPair := decidable_of_iff _ l.isAmbiguous_iff

instance (s : Service) : Decidable s.IsMarked := by unfold Service.IsMarked; infer_instance

instance (s : Service) : Decidable s.HasNotification := by
  unfold Service.HasNotification; infer_instance

instance (c : Callback) (t : TypeShape) : Decidable (c.TakesParameter t) := by
  unfold Callback.TakesParameter TypeShape.IsNamed; infer_instance

namespace Validation

/-! ## The reports of each check -/

inductive QualifierReport (m : Method) : List Diagnostic → Prop
  | remote (h : .remote ∈ m.qualifiers) : QualifierReport m []
  | missing (h : .remote ∉ m.qualifiers) : QualifierReport m [.of .missingRemote m.span []]

inductive ParameterReport (m : Method) (s : Signature) (c : Callback) : List Diagnostic → Prop
  | accepted (some : s.params ≠ []) (all : ∀ t ∈ s.params, c.TakesParameter t) :
    ParameterReport m s c []
  | invalid {rejected : List TypeShape} (h : s.params.filter (¬ c.TakesParameter ·) = rejected)
      (some : rejected ≠ []) :
    ParameterReport m s c
      [.of .invalidParameter m.span [",".intercalate (rejected.map (·.description)), m.name]]
  | missing (h : s.params = []) :
    ParameterReport m s c [.of .missingParameter m.span [m.name, String.join c.parameters]]

inductive ReturnReport (m : Method) (s : Signature) (c : Callback) : List Diagnostic → Prop
  | accepted (h : c.AllowsReturn s.result) : ReturnReport m s c []
  | invalid {t : TypeShape} (h : s.result = some t) (ht : t ≠ .nil)
      (rejected : ¬ c.AllowsReturn (some t)) :
    ReturnReport m s c [.of .invalidReturn m.span [t.description, m.name]]
  | missing (h : s.result = none ∨ s.result = some .nil) (hn : c.nilAllowed = false) :
    ReturnReport m s c [.of .missingReturn m.span [m.name, c.returnsText]]

/-- The segment of one method. -/
inductive MethodReport (resolve : Resolver) (m : Method) : List Diagnostic → Prop
  | unresolved (h : resolve m = none) : MethodReport resolve m []
  | unknown {s : Signature} {qualifier : List Diagnostic} (h : resolve m = some s)
      (hn : ∀ c ∈ Contract.callbacks, c.name ≠ m.name) (hq : QualifierReport m qualifier) :
    MethodReport resolve m (qualifier ++ [.of .unknownMethod m.span [m.name]])
  | callback {s : Signature} {c : Callback} {qualifier parameters result : List Diagnostic}
      (h : resolve m = some s) (hc : c ∈ Contract.callbacks) (hn : c.name = m.name)
      (hq : QualifierReport m qualifier) (hp : ParameterReport m s c parameters)
      (hr : ReturnReport m s c result) :
    MethodReport resolve m (qualifier ++ (parameters ++ result))

theorem qualifierReport (m : Method) : QualifierReport m (ofQualifier m).toList := by
  unfold ofQualifier Method.isRemote
  by_cases h : Qualifier.remote ∈ m.qualifiers
  · rw [if_pos (List.contains_iff_mem.mpr h)]
    exact .remote h
  · rw [if_neg (by rwa [List.contains_iff_mem])]
    exact .missing h

/-- The descriptions that no parameter of the callback has are those of the rejected types. -/
theorem filter_descriptions {c : Callback} (hc : c ∈ Contract.callbacks) (ts : List TypeShape) :
    (ts.map TypeShape.description).filter (!c.acceptsParameter ·) =
      (ts.filter (¬ c.TakesParameter ·)).map (·.description) := by
  rw [List.filter_map]
  congr 1
  refine List.filter_congr fun t _ => ?_
  show (!c.acceptsParameter t.description) = decide (¬ c.TakesParameter t)
  rw [decide_not]
  congr 1
  rw [Bool.eq_iff_iff, acceptsParameter_iff hc, decide_eq_true_iff]

theorem parameterReport (m : Method) (s : Signature) {c : Callback} (hc : c ∈ Contract.callbacks) :
    ParameterReport m s c (ofParameters m s c).toList := by
  unfold ofParameters
  by_cases hs : s.params = []
  · rw [if_pos hs, if_neg (Contract.parameters_ne_nil hc)]
    exact .missing hs
  · rw [if_neg hs, filter_descriptions hc]
    cases h : s.params.filter (¬ c.TakesParameter ·) with
    | nil => exact .accepted hs (by simpa using h)
    | cons t ts => exact .invalid h (List.cons_ne_nil t ts)

theorem returnReport (m : Method) (s : Signature) (c : Callback) :
    ReturnReport m s c (ofReturn m s c).toList := by
  unfold ofReturn
  match hr : s.result with
  | none =>
    cases hn : c.nilAllowed with
    | true => exact .accepted (by rw [hr]; exact hn)
    | false => exact .missing (.inl hr) hn
  | some t =>
    dsimp only
    by_cases ht : t = .nil
    · subst ht
      cases hn : c.nilAllowed with
      | true =>
        have h : rejects c .nil = false := by rw [rejects, hn]; rfl
        rw [h]
        exact .accepted (by rw [hr]; exact (rejects_eq_false_iff c .nil).mp h)
      | false => exact .missing (.inr hr) hn
    · have hnil : t.isNil = false := by rwa [← Bool.not_eq_true, TypeShape.isNil_iff]
      rw [hnil]
      cases h : rejects c t with
      | true =>
        refine .invalid hr ht fun hall => ?_
        rw [(rejects_eq_false_iff c t).mpr hall] at h
        exact absurd h Bool.false_ne_true
      | false => exact .accepted (by rw [hr]; exact (rejects_eq_false_iff c t).mp h)

theorem methodReport_turn (resolve : Resolver) (m : Method) :
    MethodReport resolve m (turn resolve m) := by
  unfold turn
  match h : resolve m with
  | none => exact .unresolved h
  | some s =>
    show MethodReport resolve m (methodReport m s)
    unfold methodReport
    match hf : Contract.find? m.name with
    | none => exact .unknown h (Contract.find?_eq_none_iff.mp hf) (qualifierReport m)
    | some c =>
      obtain ⟨hc, hn⟩ := Contract.find?_eq_some_iff.mp hf
      exact .callback h hc hn (qualifierReport m) (parameterReport m s hc) (returnReport m s c)

/-! ## One report at a time -/

theorem QualifierReport.unique {m : Method} {ds es : List Diagnostic} (hd : QualifierReport m ds)
    (he : QualifierReport m es) : ds = es := by
  cases hd with
  | remote h =>
    cases he with
    | remote => rfl
    | missing h' => exact absurd h h'
  | missing h =>
    cases he with
    | remote h' => exact absurd h' h
    | missing => rfl

theorem ParameterReport.unique {m : Method} {s : Signature} {c : Callback}
    {ds es : List Diagnostic} (hd : ParameterReport m s c ds) (he : ParameterReport m s c es) :
    ds = es := by
  cases hd with
  | accepted some all =>
    cases he with
    | accepted => rfl
    | invalid h hne => exact absurd (h.symm.trans (by simpa using all)) hne
    | missing h => exact absurd h some
  | invalid h hne =>
    cases he with
    | accepted _ all => exact absurd (h.symm.trans (by simpa using all)) hne
    | invalid h' => rw [← h, ← h']
    | missing h' => exact absurd (h.symm.trans (by rw [h']; rfl)) hne
  | missing h =>
    cases he with
    | accepted some => exact absurd h some
    | invalid h' hne => exact absurd (h'.symm.trans (by rw [h]; rfl)) hne
    | missing => rfl

/-- A callback that must return something allows neither an absent type nor nil. -/
theorem not_allowsReturn_of_missing {s : Signature} {c : Callback}
    (h : s.result = none ∨ s.result = some .nil) (hn : c.nilAllowed = false) :
    ¬ c.AllowsReturn s.result := by
  rcases h with h | h <;>
    simp [h, Callback.AllowsReturn, TypeShape.leaves, Callback.AllowsLeaf, TypeShape.IsNamed,
      TypeShape.qualifiedName?, hn]

theorem ReturnReport.unique {m : Method} {s : Signature} {c : Callback} {ds es : List Diagnostic}
    (hd : ReturnReport m s c ds) (he : ReturnReport m s c es) : ds = es := by
  cases hd with
  | accepted h =>
    cases he with
    | accepted => rfl
    | invalid hr _ hn => exact absurd (hr ▸ h) hn
    | missing hr hn => exact absurd h (not_allowsReturn_of_missing hr hn)
  | invalid hr ht hn =>
    cases he with
    | accepted h => exact absurd (hr ▸ h) hn
    | invalid hr' => rw [Option.some.inj (hr.symm.trans hr')]
    | missing hr' => simp [hr, ht] at hr'
  | missing hr hn =>
    cases he with
    | accepted h => exact absurd h (not_allowsReturn_of_missing hr hn)
    | invalid hr' ht => simp [hr', ht] at hr
    | missing => rfl

/-- Nothing is said of the parameters exactly if there are some and the callback takes each. -/
theorem ofParameters_eq_none_iff (m : Method) (s : Signature) {c : Callback}
    (hc : c ∈ Contract.callbacks) :
    ofParameters m s c = none ↔ s.params ≠ [] ∧ ∀ t ∈ s.params, c.TakesParameter t := by
  have hreport := parameterReport m s hc
  constructor
  · intro h
    rw [h] at hreport
    generalize hds : (none : Option Diagnostic).toList = ds at hreport
    cases hreport with
    | accepted some all => exact ⟨some, all⟩
    | invalid | missing => cases hds
  · rintro ⟨some, all⟩
    exact Option.toList_eq_nil_iff.mp (hreport.unique (.accepted some all))

/-- Nothing is said of the return type exactly if the callback allows it. -/
theorem ofReturn_eq_none_iff (m : Method) (s : Signature) (c : Callback) :
    ofReturn m s c = none ↔ c.AllowsReturn s.result := by
  have hreport := returnReport m s c
  constructor
  · intro h
    rw [h] at hreport
    generalize hds : (none : Option Diagnostic).toList = ds at hreport
    cases hreport with
    | accepted ha => exact ha
    | invalid | missing => cases hds
  · intro h
    exact Option.toList_eq_nil_iff.mp (hreport.unique (.accepted h))

theorem MethodReport.unique {resolve : Resolver} {m : Method} {ds es : List Diagnostic}
    (hd : MethodReport resolve m ds) (he : MethodReport resolve m es) : ds = es := by
  cases hd with
  | unresolved h =>
    cases he with
    | unresolved => rfl
    | unknown h' | callback h' => exact absurd (h.symm.trans h') nofun
  | unknown h hn hq =>
    cases he with
    | unresolved h' => exact absurd (h.symm.trans h') nofun
    | unknown _ _ hq' => rw [hq.unique hq']
    | callback _ hc hn' => exact absurd hn' (hn _ hc)
  | callback h hc hn hq hp hr =>
    cases he with
    | unresolved h' => exact absurd (h.symm.trans h') nofun
    | unknown _ hn' => exact absurd hn (hn' _ hc)
    | callback h' hc' hn' hq' hp' hr' =>
      obtain rfl := Option.some.inj (h.symm.trans h')
      have hf := Contract.find?_eq_some_iff.mpr ⟨hc, hn⟩
      obtain rfl := Option.some.inj (hf.symm.trans (Contract.find?_eq_some_iff.mpr ⟨hc', hn'⟩))
      rw [hq.unique hq', hp.unique hp', hr.unique hr']

theorem methodReport_iff {resolve : Resolver} {m : Method} {ds : List Diagnostic} :
    MethodReport resolve m ds ↔ ds = turn resolve m := by
  constructor
  · intro h
    exact h.unique (methodReport_turn resolve m)
  · rintro rfl
    exact methodReport_turn resolve m

theorem forall₂_methodReport_iff {resolve : Resolver} {ms : List Method}
    {segments : List (List Diagnostic)} :
    List.Forall₂ (MethodReport resolve) ms segments ↔ segments = ms.map (turn resolve) := by
  constructor
  · intro h
    induction h with
    | nil => rfl
    | cons h _ ih => rw [methodReport_iff.mp h, ih, List.map_cons]
  · rintro rfl
    rw [List.forall₂_map_right_iff]
    exact List.forall₂_same.mpr fun m _ => methodReport_turn resolve m

/-! ## The reports of the whole service -/

theorem ofListener_flatMap (ls : List Listener) :
    ls.flatMap (fun l => (ofListener l).toList) =
      (ls.filter (·.HasAmbiguousPair)).map fun l => .of .ambiguousListener l.span [] := by
  induction ls with
  | nil => rfl
  | cons l ls ih =>
    rw [List.flatMap_cons, ih, ofListener]
    by_cases h : l.HasAmbiguousPair
    · simp [h, l.isAmbiguous_iff.mpr h]
    · have h' : l.isAmbiguous = false := by rwa [← Bool.not_eq_true, l.isAmbiguous_iff]
      simp [h, h']

theorem ofAnnotations_toList (s : Service) :
    (ofAnnotations s).toList = if s.IsMarked then [] else [.of .missingMarker s.span []] := by
  have h : (s.annotations.any fun a => a.name == some Contract.marker) = true ↔ s.IsMarked := by
    simp [Service.IsMarked]
  unfold ofAnnotations
  split_ifs with h₁ h₂ h₂
  · rfl
  · exact absurd (h.mp h₁) h₂
  · exact absurd (h.mpr h₂) h₁
  · rfl

theorem ofNotification_toList (s : Service) :
    (ofNotification s).toList =
      if s.HasNotification then [] else [.of .missingNotification s.span []] := by
  have h : (s.methods.any fun m => sameUpToCase m.name Contract.notification) = true ↔
      s.HasNotification := by
    simp [Service.HasNotification]
  unfold ofNotification
  split_ifs with h₁ h₂ h₂
  · rfl
  · exact absurd (h.mp h₁) h₂
  · exact absurd (h.mpr h₂) h₁
  · rfl

end Validation

open Validation

/-- **Order of the reports.** Validation keeps what was collected and adds, in this order, one
report for each listener with an ambiguous pair, one for a missing marker, one for a missing
notification, and for each method in turn the one segment that its name, its qualifiers and its
resolved signature call for. -/
theorem Service.validate_reports (s : Service) (listeners : List Listener) (resolve : Resolver)
    (collected : List Diagnostic) :
    ∃! segments : List (List Diagnostic),
      List.Forall₂ (MethodReport resolve) s.methods segments ∧
      s.validate listeners resolve collected = collected ++
        (((listeners.filter (·.HasAmbiguousPair)).map fun l => .of .ambiguousListener l.span []) ++
          (if s.IsMarked then [] else [.of .missingMarker s.span []]) ++
          (if s.HasNotification then [] else [.of .missingNotification s.span []]) ++
          segments.flatten) := by
  refine ⟨s.methods.map (turn resolve), ⟨forall₂_methodReport_iff.mpr rfl, ?_⟩, ?_⟩
  · rw [validate_eq_append, findings, ofListener_flatMap, ofAnnotations_toList,
      ofNotification_toList, List.flatMap_def]
  · rintro segments ⟨h, -⟩
    exact forall₂_methodReport_iff.mp h

end SubscriberContract
