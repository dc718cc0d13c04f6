import SubscriberContract.Proofs.Validation.Reports

/-!
# How a signature is judged

The two checks of a signature look at types in opposite ways. A parameter is taken as a whole, and
only unions of one member are looked through; a return type is taken as the collection of its
alternatives, so its nesting does not matter. Each check is stated in full: what it adds, and when.
-/

namespace SubscriberContract

/-! ## Alternatives of a return type -/

/-- An alternative of a return type that the callback does not allow. -/
inductive Callback.Refuses (c : Callback) : TypeShape → Prop
  | other (signature : String) : c.Refuses (.other signature)
  | nil (h : c.nilAllowed = false) : c.Refuses .nil
  | named {t : TypeShape} {name : String} (h : t.IsNamed name) (hn : name ∉ c.returns) :
    c.Refuses t

theorem TypeShape.ne_union_of_mem_leaves {t leaf : TypeShape} (h : leaf ∈ t.leaves)
    (ms : List TypeShape) : leaf ≠ .union ms := by
  induction t with
  | union ts ih =>
    obtain ⟨t, ht, hleaf⟩ := mem_leaves_union.mp h
    exact ih t ht hleaf
  | _ =>
    rw [List.mem_singleton.mp h]
    simp

theorem Callback.refuses_iff {c : Callback} {leaf : TypeShape} (h : ∀ ms, leaf ≠ .union ms) :
    c.Refuses leaf ↔ ¬ c.AllowsLeaf leaf := by
  constructor
  · rintro (_ | hnil | ⟨hname, hn⟩) hallows
    · simp [AllowsLeaf, TypeShape.IsNamed, TypeShape.qualifiedName?] at hallows
    · simp [AllowsLeaf, TypeShape.IsNamed, TypeShape.qualifiedName?, hnil] at hallows
    · rcases hallows with ⟨rfl, -⟩ | ⟨name, hmem, hname'⟩
      · cases hname
      · obtain rfl := Option.some.inj (hname.symm.trans hname')
        exact hn hmem
  · intro hnot
    cases leaf with
    | union ms => exact absurd rfl (h ms)
    | other signature => exact .other signature
    | nil =>
      refine .nil (Bool.eq_false_iff.mpr fun hnil => ?_)
      exact hnot (.inl ⟨rfl, hnil⟩)
    | reference origin name => exact .named rfl fun hmem => hnot (.inr ⟨_, hmem, rfl⟩)
    | error origin signature => exact .named rfl fun hmem => hnot (.inr ⟨_, hmem, rfl⟩)

instance (c : Callback) (t : TypeShape) : Decidable (c.AllowsLeaf t) := by
  unfold Callback.AllowsLeaf TypeShape.IsNamed; infer_instance

instance (c : Callback) (t : TypeShape) : Decidable (c.Refuses t) :=
  match t with
  | .union _ => .isFalse fun h => by cases h with | named h => cases h
  | .reference .. | .error .. | .nil | .other _ =>
    decidable_of_iff (¬ c.AllowsLeaf _) (Callback.refuses_iff (by simp)).symm

theorem Callback.allowsReturn_some_iff {c : Callback} {t : TypeShape} :
    c.AllowsReturn (some t) ↔ ¬ ∃ leaf ∈ t.leaves, c.Refuses leaf := by
  unfold AllowsReturn
  constructor
  · rintro h ⟨leaf, hleaf, hrefuses⟩
    exact (refuses_iff (TypeShape.ne_union_of_mem_leaves hleaf)).mp hrefuses (h leaf hleaf)
  · intro h leaf hleaf
    by_contra hnot
    exact h ⟨leaf, hleaf, (refuses_iff (TypeShape.ne_union_of_mem_leaves hleaf)).mpr hnot⟩

open Validation

theorem Validation.ofReturn_toList (m : Method) (s : Signature) (c : Callback) :
    (ofReturn m s c).toList =
      if c.nilAllowed = false ∧ (s.result = none ∨ s.result = some .nil) then
        [.of .missingReturn m.span [m.name, "|".intercalate c.returns]]
      else s.result.elim [] fun t =>
        if ∃ leaf ∈ t.leaves, c.Refuses leaf then
          [.of .invalidReturn m.span [t.description, m.name]]
        else [] := by
  have hreport := returnReport m s c
  generalize (ofReturn m s c).toList = ds at hreport
  cases hreport with
  | accepted hallows =>
    have hpresent : ¬ (c.nilAllowed = false ∧ (s.result = none ∨ s.result = some .nil)) := by
      rintro ⟨hn, hmissing⟩
      exact not_allowsReturn_of_missing hmissing hn hallows
    rw [if_neg hpresent]
    cases hr : s.result with
    | none => rfl
    | some t =>
      rw [hr] at hallows
      exact (if_neg (Callback.allowsReturn_some_iff.mp hallows)).symm
  | @invalid t hr ht hrejected =>
    have hpresent : ¬ (c.nilAllowed = false ∧ (s.result = none ∨ s.result = some .nil)) := by
      simp [hr, ht]
    have hrefused : ∃ leaf ∈ t.leaves, c.Refuses leaf := by
      by_contra hnone
      exact hrejected (Callback.allowsReturn_some_iff.mpr hnone)
    rw [if_neg hpresent, hr]
    exact (if_pos hrefused).symm
  | missing hmissing hn => rw [if_pos ⟨hn, hmissing⟩, Callback.returnsText]

/-- **Return types by their alternatives.** The return check adds one report where something must be
returned and nothing or nil is; else one where some alternative of the declared type is refused; and
nothing otherwise. So types with the same alternatives, in whatever nesting, order and number, are
both reported or both not. -/
theorem Callback.ofReturn_leaves (c : Callback) :
    (∀ (m : Method) (s : Signature) (collected : List Diagnostic),
      report collected (ofReturn m s c) = collected ++
        if c.nilAllowed = false ∧ (s.result = none ∨ s.result = some .nil) then
          [.of .missingReturn m.span [m.name, "|".intercalate c.returns]]
        else s.result.elim [] fun t =>
          if ∃ leaf ∈ t.leaves, c.Refuses leaf then
            [.of .invalidReturn m.span [t.description, m.name]]
          else []) ∧
    ∀ (m m' : Method) (params params' : List TypeShape) (t t' : TypeShape),
      (∀ leaf, leaf ∈ t.leaves ↔ leaf ∈ t'.leaves) →
      (ofReturn m ⟨params, some t⟩ c = none ↔ ofReturn m' ⟨params', some t'⟩ c = none) := by
  refine ⟨fun m s collected => ?_, fun m m' params params' t t' hleaves => ?_⟩
  · rw [report_eq_append, ofReturn_toList]
  · rw [ofReturn_eq_none_iff, ofReturn_eq_none_iff]
    exact forall_congr' fun leaf => imp_congr_left (hleaves leaf)

/-- Nested, repeated and reordered, with an empty union among them: the alternatives are the same,
and the nil among them is refused in both. -/
theorem Callback.ofReturn_leaves_nested :
    let success : TypeShape := .reference (some "websub") "SubscriptionVerificationSuccess"
    let t : TypeShape := .union [.union [success, .nil], .union []]
    let t' : TypeShape := .union [.nil, success, success]
    let m : Method := ⟨Contract.onVerification.name, [.remote], .between 50 90, none⟩
    (∀ leaf, leaf ∈ t.leaves ↔ leaf ∈ t'.leaves) ∧
      ofReturn m ⟨[], some t⟩ Contract.onVerification ≠ none ∧
      ofReturn m ⟨[], some t'⟩ Contract.onVerification ≠ none := by
  intro success t t' m
  have hleaves : ∀ leaf, leaf ∈ t.leaves ↔ leaf ∈ t'.leaves := by
    intro leaf
    show leaf ∈ [success, .nil] ↔ leaf ∈ [.nil, success, success]
    simp only [List.mem_cons, List.not_mem_nil, or_false, or_self]
    exact or_comm
  have hreported : ofReturn m ⟨[], some t⟩ Contract.onVerification ≠ none := by decide
  refine ⟨hleaves, hreported, fun h => hreported ?_⟩
  exact ((Contract.onVerification.ofReturn_leaves).2 m m [] [] t t' hleaves).mpr h

/-! ## Parameters as a whole -/

/-- The name by which a parameter is matched: the qualified name where the type has one, and what
the type looks like otherwise. -/
def TypeShape.parameterName (t : TypeShape) : String := t.qualifiedName?.getD t.description

theorem TypeShape.parameterName_eq (t : TypeShape) : t.parameterName = t.description := by
  cases t <;> rfl

theorem TypeShape.peel_union_of_length_ne_one {ms : List TypeShape} (h : ms.length ≠ 1) :
    (union ms).peel = .union ms := by
  match ms, h with
  | [], _ | _ :: _ :: _, _ => rfl
  | [_], h => exact absurd rfl h

theorem Callback.not_takesParameter_union {ms : List TypeShape} (h : ms.length ≠ 1)
    (c : Callback) : ¬ c.TakesParameter (.union ms) := by
  rintro ⟨name, -, ht⟩
  rw [TypeShape.peel_union_of_length_ne_one h] at ht
  simp [TypeShape.IsNamed, TypeShape.qualifiedName?] at ht

theorem Validation.ofParameters_toList (m : Method) (s : Signature) {c : Callback}
    (hc : c ∈ Contract.callbacks) :
    (ofParameters m s c).toList =
      if s.params = [] then
        [.of .missingParameter m.span [m.name, String.join c.parameters]]
      else if ∃ t ∈ s.params, ¬ c.TakesParameter t then
        [.of .invalidParameter m.span
          [",".intercalate ((s.params.filter (¬ c.TakesParameter ·)).map (·.parameterName)),
            m.name]]
      else [] := by
  have hreport := parameterReport m s hc
  generalize (ofParameters m s c).toList = ds at hreport
  cases hreport with
  | accepted hsome hall =>
    have hnone : ¬ ∃ t ∈ s.params, ¬ c.TakesParameter t := by
      rintro ⟨t, ht, hnot⟩
      exact hnot (hall t ht)
    rw [if_neg hsome, if_neg hnone]
  | invalid hrejected hsome =>
    obtain ⟨t, ht⟩ := List.exists_mem_of_ne_nil _ hsome
    rw [← hrejected, List.mem_filter] at ht
    have hexists : ∃ t ∈ s.params, ¬ c.TakesParameter t := ⟨t, ht.1, by simpa using ht.2⟩
    have hparams : s.params ≠ [] := List.ne_nil_of_mem ht.1
    rw [if_neg hparams, if_pos hexists, hrejected]
    simp only [TypeShape.parameterName_eq]
  | missing hparams => rw [if_pos hparams]

/-- **Parameters as a whole.** A callback takes a parameter whose type, freed from unions of one
member, is one of its names or another type written like one; unions of no or of several members it
never takes. The parameter check adds one report where there are no parameters, else one with the
names of those that are not taken, and nothing where all are. -/
theorem Callback.ofParameters_exact {c : Callback} (hc : c ∈ Contract.callbacks) :
    (∀ (m : Method) (t : TypeShape) (result : Option TypeShape),
      ofParameters m ⟨[t], result⟩ c = none ↔
        ∃ name ∈ c.parameters, t.peel.IsNamed name ∨ t.peel = .other name) ∧
    (∀ (m : Method) (s : Signature) (members : List TypeShape), members.length ≠ 1 →
      .union members ∈ s.params → ofParameters m s c ≠ none) ∧
    ∀ (m : Method) (s : Signature) (collected : List Diagnostic),
      report collected (ofParameters m s c) = collected ++
        if s.params = [] then
          [.of .missingParameter m.span [m.name, String.join c.parameters]]
        else if ∃ t ∈ s.params, ¬ c.TakesParameter t then
          [.of .invalidParameter m.span
            [",".intercalate ((s.params.filter (¬ c.TakesParameter ·)).map (·.parameterName)),
              m.name]]
        else [] := by
  refine ⟨fun m t result => ?_, fun m s members hlength hmem hnone => ?_,
    fun m s collected => ?_⟩
  · rw [ofParameters_eq_none_iff m _ hc]
    show ([t] ≠ [] ∧ ∀ t' ∈ [t], c.TakesParameter t') ↔ c.TakesParameter t
    simp
  · obtain ⟨-, hall⟩ := (ofParameters_eq_none_iff m s hc).mp hnone
    exact c.not_takesParameter_union hlength (hall _ hmem)
  · rw [report_eq_append, ofParameters_toList m s hc]

/-- A union of one member is taken, an optional type is not, and of two parameters the rejected one
is named. -/
theorem Callback.ofParameters_exact_optional :
    let message : TypeShape := .reference (some "websub") "ContentDistributionMessage"
    let c := Contract.onNotification
    let m : Method := ⟨c.name, [.remote], .between 50 90, none⟩
    c ∈ Contract.callbacks ∧ ofParameters m ⟨[.union [message]], none⟩ c = none ∧
      ofParameters m ⟨[.union [message], .optional message], none⟩ c ≠ none ∧
      report [] (ofParameters m ⟨[.union [message], .optional message], none⟩ c) =
        [.of .invalidParameter m.span ["websub:ContentDistributionMessage?", m.name]] := by
  intro message c m
  have hc : c ∈ Contract.callbacks := by decide
  obtain ⟨hone, hunion, hreport⟩ := ofParameters_exact hc
  refine ⟨hc, (hone m _ none).mpr ⟨_, List.mem_singleton.mpr rfl, .inl rfl⟩, ?_, ?_⟩
  · exact hunion m _ [message, .nil] (by decide) (List.mem_cons_of_mem _ List.mem_cons_self)
  · rw [hreport]
    decide

end SubscriberContract
