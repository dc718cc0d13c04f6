import SubscriberContract.Proofs.Model.TypeShape
import SubscriberContract.Validation

/-!
# The types that a callback accepts

Parameters are matched by their descriptions, and return types by a search for a rejected
alternative. Here both are said of the types themselves: a parameter is a name of the contract with
nothing but unions of one member around it, and a return type is one all of whose leaves are
allowed.
-/

namespace SubscriberContract

/-- The type is a reference or an error of this name. -/
def TypeShape.IsNamed (t : TypeShape) (name : String) : Prop := t.qualifiedName? = some name

namespace Callback

/-- A parameter type of the callback: one of its names, or another type written like one. -/
def TakesParameter (c : Callback) (t : TypeShape) : Prop :=
  ∃ name ∈ c.parameters, t.peel.IsNamed name ∨ t.peel = .other name

/-- An alternative of a return type that the callback allows. -/
def AllowsLeaf (c : Callback) (t : TypeShape) : Prop :=
  (t = .nil ∧ c.nilAllowed = true) ∨ ∃ name ∈ c.returns, t.IsNamed name

/-- A return type of the callback, or an absent one. -/
def AllowsReturn (c : Callback) : Option TypeShape → Prop
  | none => c.nilAllowed = true
  | some t => ∀ leaf ∈ t.leaves, c.AllowsLeaf leaf

end Callback

namespace Contract

theorem mem_callbacks {c : Callback} :
    c ∈ callbacks ↔ c = onVerification ∨ c = onDenial ∨ c = onNotification := by
  simp [callbacks]

theorem find?_eq_some_iff {name : String} {c : Callback} :
    find? name = some c ↔ c ∈ callbacks ∧ c.name = name := by
  constructor
  · intro h
    exact ⟨List.mem_of_find?_eq_some h, by simpa using List.find?_some h⟩
  · rintro ⟨hc, rfl⟩
    rcases mem_callbacks.mp hc with rfl | rfl | rfl <;> decide

theorem find?_eq_none_iff {name : String} :
    find? name = none ↔ ∀ c ∈ callbacks, c.name ≠ name := by
  simp [find?]

theorem parameters_ne_nil {c : Callback} (hc : c ∈ callbacks) : c.parameters ≠ [] := by
  rcases mem_callbacks.mp hc with rfl | rfl | rfl <;> decide

/-- What no name of the contract is: the description of nil or of a union other than of one
member. -/
structure Unadorned (name : String) : Prop where
  ne_empty : name ≠ ""
  ne_nil : name ≠ "()"
  no_mark : ∀ c ∈ ['|', '?'], c ∉ name.toList

theorem unadorned_of_mem_parameters {c : Callback} (hc : c ∈ callbacks) {name : String}
    (h : name ∈ c.parameters) : Unadorned name := by
  rcases mem_callbacks.mp hc with rfl | rfl | rfl <;> rw [List.mem_singleton.mp h] <;>
    exact ⟨by decide, by decide,
      List.forall_mem_cons.mpr ⟨by decide, List.forall_mem_singleton.mpr (by decide)⟩⟩

end Contract

open Contract

/-- The description of a peeled type is a name without marks only for the shapes that have a
name. -/
theorem TypeShape.description_eq_iff {name : String} (h : Unadorned name) (t : TypeShape) :
    t.description = name ↔ t.peel.IsNamed name ∨ t.peel = .other name := by
  rw [← t.description_peel]
  have hs := t.peel_ne_union_singleton
  unfold TypeShape.IsNamed
  match t.peel, hs with
  | .reference .., _ | .error .., _ | .other _, _ => simp [description, qualifiedName?]
  | .nil, _ => simpa [description, qualifiedName?] using h.ne_nil.symm
  | .union [], _ =>
    simpa [description_union, describeUnion, qualifiedName?] using h.ne_empty.symm
  | .union [u], hs => exact absurd rfl (hs u)
  | .union (u :: v :: ts), _ =>
    obtain ⟨c, hc, hm⟩ := exists_mark_description_union u v ts
    have hne : (union (u :: v :: ts)).description ≠ name := by
      rintro rfl
      exact h.no_mark c hc hm
    simpa [qualifiedName?] using hne

namespace Validation

theorem acceptsParameter_iff {c : Callback} (hc : c ∈ callbacks) (t : TypeShape) :
    c.acceptsParameter t.description = true ↔ c.TakesParameter t := by
  unfold Callback.acceptsParameter Callback.TakesParameter
  rw [List.contains_iff_mem]
  constructor
  · intro h
    exact ⟨_, h, (TypeShape.description_eq_iff (unadorned_of_mem_parameters hc h) t).mp rfl⟩
  · rintro ⟨name, h, ht⟩
    rwa [(TypeShape.description_eq_iff (unadorned_of_mem_parameters hc h) t).mpr ht]

theorem rejectsAny_eq_any (c : Callback) (ts : List TypeShape) :
    rejectsAny c ts = ts.any (rejects c) := by
  induction ts with
  | nil => rfl
  | cons t ts ih => rw [rejectsAny, ih, List.any_cons]

theorem rejects_eq_false_iff (c : Callback) (t : TypeShape) :
    rejects c t = false ↔ ∀ leaf ∈ t.leaves, c.AllowsLeaf leaf := by
  induction t with
  | union ms ih =>
    rw [rejects, rejectsAny_eq_any, List.any_eq_false]
    simp only [TypeShape.mem_leaves_union, Bool.not_eq_true]
    constructor
    · rintro h leaf ⟨t, ht, hl⟩
      exact (ih t ht).mp (h t ht) leaf hl
    · intro h t ht
      exact (ih t ht).mpr fun leaf hl => h leaf ⟨t, ht, hl⟩
  | _ =>
    simp [rejects, TypeShape.leaves, Callback.AllowsLeaf, Callback.acceptsReturn,
      TypeShape.IsNamed, TypeShape.qualifiedName?]

/-- Of the parameters nothing counts but their descriptions. -/
theorem ofParameters_congr {params params' : List TypeShape}
    (h : params.map TypeShape.description = params'.map TypeShape.description) (m : Method)
    (result : Option TypeShape) (c : Callback) :
    ofParameters m ⟨params, result⟩ c = ofParameters m ⟨params', result⟩ c := by
  have hempty : params = [] ↔ params' = [] := by
    rw [← List.map_eq_nil_iff, h, List.map_eq_nil_iff]
  unfold ofParameters
  simp only [hempty, h]

end Validation
end SubscriberContract
