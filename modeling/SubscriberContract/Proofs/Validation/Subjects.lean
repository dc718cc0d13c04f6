import SubscriberContract.Proofs.Validation.Reports

/-!
# What a diagnostic is about

A host may build a message anew from the code and the arguments, so every diagnostic has as many
arguments as its message shows (`Code.uses_iff`), and the argument that names a method names the
method at whose span the diagnostic stands (`Diagnostic.IsAbout`). Each check keeps to this: there
is one lemma for each kind of report, `MethodReport.subject` for a turn of the loop over the methods
and `Service.subject_of_mem_findings` for the whole service.
-/

namespace SubscriberContract

/-! ## Messages and their arguments -/

namespace Text

/-- A text made of `n` arguments, each between fixed texts of which the first is not empty. -/
inductive Template (text : List String → String) : Nat → Prop
  | fixed (front : String) (hne : front ≠ "") (h : ∀ arguments, text arguments = front) :
    Template text 0
  | one (front back : String) (hne : front ≠ "")
      (h : ∀ arguments, text arguments = front ++ arguments[0]?.getD "" ++ back) : Template text 1
  | two (front middle back : String) (hne : front ≠ "")
      (h : ∀ arguments, text arguments =
        front ++ arguments[0]?.getD "" ++ middle ++ arguments[1]?.getD "" ++ back) :
    Template text 2

/-- The text is made of the first `n` arguments alone and shows each of them: with another argument
in one place it is another text. -/
structure Uses (text : List String → String) (n : Nat) : Prop where
  first : ∀ arguments, text (arguments.take n) = text arguments
  shown : ∀ (arguments : List String) (i : Nat), i < n → i < arguments.length → ∀ x y,
    text (arguments.set i x) = text (arguments.set i y) → x = y

variable {text : List String → String} {n : Nat}

theorem Template.ne_empty (h : Template text n) (arguments : List String) :
    text arguments ≠ "" := by
  cases h with
  | fixed front hne h => rwa [h]
  | one front back hne h => simp [h, hne]
  | two front middle back hne h => simp [h, hne]

theorem Template.uses (h : Template text n) : Uses text n := by
  constructor
  · intro arguments
    cases h with
    | fixed front hne h => rw [h, h]
    | one front back hne h => simp [h]
    | two front middle back hne h => simp [h]
  · intro arguments i hi hlength x y hxy
    cases h with
    | fixed => omega
    | one front back hne h =>
      obtain rfl : i = 0 := by omega
      simpa [h, hlength] using hxy
    | two front middle back hne h =>
      obtain rfl | rfl : i = 0 ∨ i = 1 := by omega
      · simpa [h, hlength] using hxy
      · simpa [h, hlength] using hxy

/-- A text uses one number of arguments only. -/
theorem Uses.unique {k : Nat} (hn : Uses text n) (hk : Uses text k) : n = k := by
  have hle : ∀ {n k : Nat}, Uses text n → Uses text k → k ≤ n := by
    intro n k hn hk
    by_contra hlt
    -- otherwise the argument behind the first `n` would be shown and have no effect
    have hsame : ∀ x,
        text ((List.replicate k "").set n x) = text ((List.replicate k "").take n) := by
      intro x
      rw [← hn.first, List.take_set_of_le (Nat.le_refl n)]
    have hlength : n < (List.replicate k "").length := by
      rw [List.length_replicate]
      omega
    have hxy := hk.shown _ n (by omega) hlength "" "x" ((hsame "").trans (hsame "x").symm)
    exact absurd hxy (by decide)
  exact Nat.le_antisymm (hle hk hn) (hle hn hk)

end Text

namespace Code

theorem template (c : Code) : Text.Template c.message c.arity := by
  cases c with
  | missingMarker | missingRemote | missingNotification | ambiguousListener =>
    exact .fixed _ (by decide) fun _ => rfl
  | unknownMethod => exact .one _ _ (by decide) fun _ => rfl
  | invalidParameter | missingParameter | invalidReturn | missingReturn =>
    exact .two _ _ _ (by decide) fun _ => rfl

/-- The arity of a code is the number of arguments that its message uses. -/
theorem uses_iff (c : Code) (n : Nat) : Text.Uses c.message n ↔ n = c.arity := by
  constructor
  · intro h
    exact h.unique c.template.uses
  · rintro rfl
    exact c.template.uses

/-- Which argument names the method that the message speaks of. -/
def namesMethod? : Code → Option Nat
  | .unknownMethod | .missingParameter | .missingReturn => some 0
  | .invalidParameter | .invalidReturn => some 1
  | .missingMarker | .missingRemote | .missingNotification | .ambiguousListener => none

/-- The codes that are reported of methods. The message of one of them names no method. -/
def IsOfMethod (c : Code) : Prop := c = .missingRemote ∨ c.namesMethod?.isSome

instance : DecidablePred IsOfMethod := fun c => by unfold IsOfMethod; infer_instance

end Code

/-! ## The subject of a report -/

namespace Diagnostic

/-- The diagnostic is as its code has it: severity, message and hint come from the code. -/
def IsOriginal (d : Diagnostic) : Prop := d = .of d.code d.span d.arguments

/-- A diagnostic as the checks make it, with as many arguments as its message uses. -/
structure IsReport (d : Diagnostic) : Prop where
  original : d.IsOriginal
  complete : d.arguments.length = d.code.arity

/-- The diagnostic stands at the method and names no other one. -/
structure IsAbout (d : Diagnostic) (m : Method) : Prop where
  span : d.span = m.span
  name : ∀ i ∈ d.code.namesMethod?, d.arguments[i]? = some m.name

/-- Message and hint can be had from the code and the arguments, of which there are as many as the
message uses. -/
structure Renders (d : Diagnostic) : Prop where
  message : d.message = d.code.message d.arguments
  hint : d.hint = some d.code.hint
  complete : d.arguments.length = d.code.arity

theorem IsOriginal.severity {d : Diagnostic} (h : d.IsOriginal) : d.severity = .error := by
  rw [h]
  rfl

theorem IsReport.renders {d : Diagnostic} (h : d.IsReport) : d.Renders where
  message := congrArg Diagnostic.message h.original
  hint := congrArg Diagnostic.hint h.original
  complete := h.complete

theorem Renders.demote {d : Diagnostic} (h : d.Renders) (warn : List Code) :
    (d.demote warn).Renders := by
  unfold Diagnostic.demote
  split_ifs
  · exact ⟨h.message, h.hint, h.complete⟩
  · exact h

theorem IsAbout.demote {d : Diagnostic} {m : Method} (h : d.IsAbout m) (warn : List Code) :
    (d.demote warn).IsAbout m := by
  unfold Diagnostic.demote
  split_ifs
  · exact ⟨h.span, h.name⟩
  · exact h

theorem code_demote (d : Diagnostic) (warn : List Code) : (d.demote warn).code = d.code := by
  unfold Diagnostic.demote
  split_ifs <;> rfl

end Diagnostic

namespace Validation

variable {resolve : Resolver} {m : Method} {s : Signature} {c : Callback} {ds : List Diagnostic}

theorem subject_of {code : Code} {arguments : List String} (hlength : arguments.length = code.arity)
    (hname : ∀ i ∈ code.namesMethod?, arguments[i]? = some m.name) :
    (Diagnostic.of code m.span arguments).IsReport ∧
      (Diagnostic.of code m.span arguments).IsAbout m := ⟨⟨rfl, hlength⟩, rfl, hname⟩

theorem QualifierReport.subject (h : QualifierReport m ds) :
    ∀ d ∈ ds, d.IsReport ∧ d.IsAbout m := by
  cases h with
  | remote => exact nofun
  | missing => exact List.forall_mem_singleton.mpr (subject_of rfl nofun)

theorem ParameterReport.subject (h : ParameterReport m s c ds) :
    ∀ d ∈ ds, d.IsReport ∧ d.IsAbout m := by
  cases h with
  | accepted => exact nofun
  | invalid => exact List.forall_mem_singleton.mpr (subject_of rfl (by rintro i ⟨⟩; rfl))
  | missing => exact List.forall_mem_singleton.mpr (subject_of rfl (by rintro i ⟨⟩; rfl))

theorem ReturnReport.subject (h : ReturnReport m s c ds) :
    ∀ d ∈ ds, d.IsReport ∧ d.IsAbout m := by
  cases h with
  | accepted => exact nofun
  | invalid => exact List.forall_mem_singleton.mpr (subject_of rfl (by rintro i ⟨⟩; rfl))
  | missing => exact List.forall_mem_singleton.mpr (subject_of rfl (by rintro i ⟨⟩; rfl))

/-- The step: whatever a method is reported for is about this method, which is resolved. -/
theorem MethodReport.subject (h : MethodReport resolve m ds) :
    ∀ d ∈ ds, (resolve m).isSome ∧ d.IsReport ∧ d.IsAbout m := by
  cases h with
  | unresolved => exact nofun
  | unknown hr hn hq =>
    refine List.forall_mem_append.mpr ⟨fun d hd => ?_, List.forall_mem_singleton.mpr ?_⟩
    · exact ⟨Option.isSome_of_eq_some hr, hq.subject d hd⟩
    · exact ⟨Option.isSome_of_eq_some hr, subject_of rfl (by rintro i ⟨⟩; rfl)⟩
  | callback hr hc hn hq hp ht =>
    refine List.forall_mem_append.mpr ⟨fun d hd => ?_, List.forall_mem_append.mpr
      ⟨fun d hd => ?_, fun d hd => ?_⟩⟩
    · exact ⟨Option.isSome_of_eq_some hr, hq.subject d hd⟩
    · exact ⟨Option.isSome_of_eq_some hr, hp.subject d hd⟩
    · exact ⟨Option.isSome_of_eq_some hr, ht.subject d hd⟩

end Validation

open Validation

/-- The run: what is reported of a service, and the methods that the reports are about. -/
theorem Service.subject_of_mem_findings {s : Service} {listeners : List Listener}
    {resolve : Resolver} {d : Diagnostic} (h : d ∈ s.findings listeners resolve) :
    d.IsReport ∧
      (d.code.IsOfMethod → ∃ m ∈ s.methods, (resolve m).isSome ∧ d.IsAbout m) := by
  have hbare (code : Code) (span : Span) (hcode : ¬ code.IsOfMethod) (harity : code.arity = 0) :
      (Diagnostic.of code span []).IsReport ∧ (code.IsOfMethod →
        ∃ m ∈ s.methods, (resolve m).isSome ∧ (Diagnostic.of code span []).IsAbout m) :=
    ⟨⟨rfl, harity.symm⟩, fun h => absurd h hcode⟩
  rw [findings, ofListener_flatMap, ofAnnotations_toList, ofNotification_toList] at h
  simp only [List.mem_append, List.mem_map, List.mem_flatMap] at h
  rcases h with ((⟨l, -, rfl⟩ | h) | h) | ⟨m, hm, h⟩
  · exact hbare .ambiguousListener l.span (by decide) rfl
  · split_ifs at h
    · cases h
    · rw [List.mem_singleton.mp h]
      exact hbare .missingMarker s.span (by decide) rfl
  · split_ifs at h
    · cases h
    · rw [List.mem_singleton.mp h]
      exact hbare .missingNotification s.span (by decide) rfl
  · obtain ⟨hresolved, hreport, habout⟩ := (methodReport_turn resolve m).subject d h
    exact ⟨hreport, fun _ => ⟨m, hm, hresolved, habout⟩⟩

namespace CompilationUnit

variable {u : CompilationUnit} {d : Diagnostic}

theorem subject_of_mem_check (h : d ∈ u.check) :
    d.IsReport ∧ (d.code.IsOfMethod →
      ∃ s ∈ u.services, ∃ m ∈ s.methods, m.signature.isSome ∧ d.IsAbout m) := by
  rw [check_eq_flatMap] at h
  obtain ⟨s, hs, hd⟩ := List.mem_flatMap.mp h
  obtain ⟨hreport, habout⟩ := s.subject_of_mem_findings hd
  exact ⟨hreport, fun hcode => ⟨s, hs, habout hcode⟩⟩

theorem isOriginal_of_mem_check (h : d ∈ u.check) : d.IsOriginal :=
  (subject_of_mem_check h).1.original

/-- **Diagnostics can be rendered anew.** Whatever is reported of a unit, be its code listed for
demotion or not, has the message of its code built from its arguments, which are as many as the
message uses, and the hint of its code; and what is reported of a method stands at a resolved method
of the unit and names this method where the message names one. -/
theorem check_renders (warn : List Code) (h : d ∈ u.check ++ u.check.map (.demote warn)) :
    d.message = d.code.message d.arguments ∧ d.message ≠ "" ∧ d.hint = some d.code.hint ∧
    d.arguments.length = d.code.arity ∧ Text.Uses d.code.message d.arguments.length ∧
    (d.code.IsOfMethod → ∃ s ∈ u.services, ∃ m ∈ s.methods, m.signature.isSome ∧
      d.span = m.span ∧ ∀ i ∈ d.code.namesMethod?, d.arguments[i]? = some m.name) := by
  have hsubject : d.Renders ∧ (d.code.IsOfMethod →
      ∃ s ∈ u.services, ∃ m ∈ s.methods, m.signature.isSome ∧ d.IsAbout m) := by
    rcases List.mem_append.mp h with h | h
    · obtain ⟨hreport, habout⟩ := subject_of_mem_check h
      exact ⟨hreport.renders, habout⟩
    · obtain ⟨found, hfound, rfl⟩ := List.mem_map.mp h
      obtain ⟨hreport, habout⟩ := subject_of_mem_check hfound
      refine ⟨hreport.renders.demote warn, fun hcode => ?_⟩
      rw [Diagnostic.code_demote] at hcode
      obtain ⟨s, hs, m, hm, hresolved, hm'⟩ := habout hcode
      exact ⟨s, hs, m, hm, hresolved, hm'.demote warn⟩
  obtain ⟨hrenders, habout⟩ := hsubject
  refine ⟨hrenders.message, ?_, hrenders.hint, hrenders.complete, ?_, fun hcode => ?_⟩
  · rw [hrenders.message]
    exact d.code.template.ne_empty d.arguments
  · exact (d.code.uses_iff _).mpr hrenders.complete
  · obtain ⟨s, hs, m, hm, hresolved, hm'⟩ := habout hcode
    exact ⟨s, hs, m, hm, hresolved, hm'.span, hm'.name⟩

/-- A method that is no callback is reported by its name, also where the code is listed. -/
theorem check_renders_unknown :
    let m : Method := ⟨"onPing", [.remote], .between 30 60, some ⟨[], none⟩⟩
    let u : CompilationUnit := ⟨none, [], [⟨.between 0 100, [.named Contract.marker], [m]⟩]⟩
    let d : Diagnostic := (Diagnostic.of .unknownMethod m.span ["onPing"]).demote [.unknownMethod]
    d ∈ u.check ++ u.check.map (.demote [.unknownMethod]) ∧ d.severity = .warning ∧
      d.message ≠ "" ∧ ∃ s ∈ u.services, ∃ m ∈ s.methods, m.signature.isSome ∧
        d.span = m.span ∧ d.arguments[0]? = some m.name := by
  intro m u d
  have hmem : d ∈ u.check ++ u.check.map (.demote [.unknownMethod]) := by decide
  obtain ⟨-, hne, -, -, -, hsubject⟩ := check_renders [.unknownMethod] hmem
  obtain ⟨s, hs, m', hm', hresolved, hspan, hname⟩ := hsubject (by decide)
  exact ⟨hmem, rfl, hne, s, hs, m', hm', hresolved, hspan, hname 0 rfl⟩

end CompilationUnit
end SubscriberContract
