import SubscriberContract.Model.TypeShape

/-!
# Induction over types

A union holds a list of types, so an induction gives the property for each member. The functions
that walk a list of types are the list operations of the functions on one type.
-/

namespace SubscriberContract.TypeShape

/-- A property of types follows where it may be used for the members of a union. -/
@[induction_eliminator]
theorem memberInduction {P : TypeShape → Prop} (reference : ∀ o n, P (.reference o n))
    (union : ∀ ms, (∀ t ∈ ms, P t) → P (.union ms)) (error : ∀ o s, P (.error o s)) (nil : P .nil)
    (other : ∀ s, P (.other s)) (t : TypeShape) : P t := by
  refine @TypeShape.rec P (fun ms => ∀ t ∈ ms, P t) reference union error nil other ?_ ?_ t
  · intro t h
    exact absurd h List.not_mem_nil
  · intro t ts ht hts u h
    rcases List.mem_cons.mp h with rfl | h
    · exact ht
    · exact hts u h

theorem isNil_iff {t : TypeShape} : t.isNil = true ↔ t = nil := by
  cases t <;> simp [isNil]

theorem leavesOf_eq_flatMap (ts : List TypeShape) : leavesOf ts = ts.flatMap leaves := by
  induction ts with
  | nil => rfl
  | cons t ts ih => rw [leavesOf, ih, List.flatMap_cons]

theorem descriptions_eq_map (ts : List TypeShape) : descriptions ts = ts.map description := by
  induction ts with
  | nil => rfl
  | cons t ts ih => rw [descriptions, ih, List.map_cons]

theorem mem_leaves_union {ms : List TypeShape} {l : TypeShape} :
    l ∈ (union ms).leaves ↔ ∃ t ∈ ms, l ∈ t.leaves := by
  rw [leaves, leavesOf_eq_flatMap, List.mem_flatMap]

theorem description_union (ms : List TypeShape) :
    (union ms).description = describeUnion ms (ms.map description) := by
  rw [description, descriptions_eq_map]

/-- What a union looks like depends on its members beside nils, and on whether nils are there. -/
theorem description_union_eq (ms : List TypeShape) :
    (union ms).description =
      match ms.filter (!·.isNil) with
      | [t] =>
        if ms.any isNil then t.description ++ "?" else "|".intercalate (ms.map description)
      | _ => "|".intercalate (ms.map description) := by
  have hpairs : (ms.zip (ms.map description)).filter (fun p => !p.1.isNil) =
      (ms.filter (!·.isNil)).map fun t => (t, t.description) := by
    induction ms with
    | nil => rfl
    | cons t ms ih =>
      rw [List.map_cons, List.zip_cons_cons, List.filter_cons, List.filter_cons, ih]
      cases t.isNil <;> rfl
  rw [description_union, describeUnion, hpairs]
  generalize ms.filter (!·.isNil) = rest
  rcases rest with _ | ⟨t, _ | ⟨u, rest⟩⟩ <;> rfl

/-- A type without the unions of one member around it. -/
def peel : TypeShape → TypeShape
  | .union [t] => t.peel
  | t => t

theorem description_union_singleton (t : TypeShape) : (union [t]).description = t.description := by
  rw [description_union, describeUnion]
  cases t <;> simp [isNil]

theorem description_peel (t : TypeShape) : t.peel.description = t.description := by
  induction t with
  | union ms ih =>
    match ms with
    | [] | _ :: _ :: _ => rfl
    | [t] => rw [peel, ih t (List.mem_singleton.mpr rfl), description_union_singleton]
  | _ => rfl

/-- Peeling leaves no union of one member. -/
theorem peel_ne_union_singleton (t u : TypeShape) : t.peel ≠ .union [u] := by
  induction t with
  | union ms ih =>
    match ms with
    | [] | _ :: _ :: _ => simp [peel]
    | [t] => rw [peel]; exact ih t (List.mem_singleton.mpr rfl)
  | _ => simp [peel]

/-- A union of several members shows a bar or a question mark. -/
theorem exists_mark_description_union (t u : TypeShape) (ts : List TypeShape) :
    ∃ c ∈ ['|', '?'], c ∈ (union (t :: u :: ts)).description.toList := by
  rw [description_union, describeUnion]
  split
  · split
    · exact ⟨'?', by simp, by simp⟩
    · exact ⟨'|', by simp, by simp⟩
  · exact ⟨'|', by simp, by simp⟩

end SubscriberContract.TypeShape
