import Mathlib.Data.List.DropRight
import SubscriberContract.Proofs.Model.TypeShape
import SubscriberContract.Proofs.Text.Cut

/-!
# What a description names

A description joins the members of a union by bars, or sets a question mark behind the only member
beside nils; neither is put in parentheses. So the nesting cannot be read from the text, but the
alternatives can: they stand between the bars, and a question mark stands for nil, wherever it is.
A bar puts the alternatives of two texts together (`mem_alternatives_bar`) and a question mark adds
nil (`mem_alternatives_mark`), whatever the texts are; from these two steps the alternatives of a
union are those of its members.
-/

namespace SubscriberContract.TypeShape

/-- The alternatives that a description names: what stands between the bars, without the question
marks at its end, and nil where there are question marks. -/
def alternatives (description : String) : List String :=
  let pieces := Text.splitOn '|' description.toList
  pieces.map (fun piece => String.ofList (piece.rdropWhile (· == '?'))) ++
    if pieces.any (·.contains '?') then ["()"] else []

variable {s s' text : String}

theorem mem_alternatives : text ∈ alternatives s ↔
    (∃ piece ∈ Text.splitOn '|' s.toList,
      String.ofList (piece.rdropWhile (· == '?')) = text) ∨
    (∃ piece ∈ Text.splitOn '|' s.toList, '?' ∈ piece) ∧ text = "()" := by
  have hany : (Text.splitOn '|' s.toList).any (·.contains '?') = true ↔
      ∃ piece ∈ Text.splitOn '|' s.toList, '?' ∈ piece := by
    simp
  unfold alternatives
  rw [List.mem_append, List.mem_map, ← hany]
  refine or_congr_right ?_
  split
  · next h => rw [List.mem_singleton, and_iff_right h]
  · next h => exact iff_of_false List.not_mem_nil fun h' => h h'.1

theorem mem_alternatives_bar :
    text ∈ alternatives (s ++ "|" ++ s') ↔ text ∈ alternatives s ∨ text ∈ alternatives s' := by
  have hpieces : Text.splitOn '|' (s ++ "|" ++ s').toList =
      Text.splitOn '|' s.toList ++ Text.splitOn '|' s'.toList := by
    rw [← Text.splitOn_append]
    simp
  simp only [mem_alternatives, hpieces, List.mem_append, or_and_right, exists_or]
  exact or_or_or_comm

theorem mem_alternatives_mark :
    text ∈ alternatives (s ++ "?") ↔ text ∈ alternatives s ∨ text = "()" := by
  have hmark : '|' ∉ ['?'] := by decide
  obtain ⟨front, last, hs, hmarked⟩ := Text.splitOn_append_of_not_mem s.toList hmark
  have hlast : (last ++ ['?']).rdropWhile (· == '?') = last.rdropWhile (· == '?') :=
    List.rdropWhile_concat_pos _ _ _ rfl
  have hpieces : Text.splitOn '|' (s ++ "?").toList = front ++ [last ++ ['?']] := by
    rw [← hmarked]
    simp
  rw [mem_alternatives, mem_alternatives, hpieces, hs]
  simp only [List.mem_append, List.mem_singleton, or_and_right, exists_or, exists_eq_left, hlast,
    List.mem_cons_self, true_and, or_assoc]

theorem alternatives_of_unmarked (hbar : '|' ∉ s.toList) (hmark : '?' ∉ s.toList) :
    alternatives s = [s] := by
  have hkept : s.toList.rdropWhile (· == '?') = s.toList := by
    rw [List.rdropWhile_eq_self_iff]
    intro hne hlast
    exact hmark (beq_iff_eq.mp hlast ▸ List.getLast_mem hne)
  unfold alternatives
  rw [Text.splitOn_of_not_mem hbar]
  simp [hkept, hmark]

theorem mem_alternatives_intercalate {texts : List String} (h : texts ≠ []) :
    text ∈ alternatives ("|".intercalate texts) ↔ ∃ s ∈ texts, text ∈ alternatives s := by
  induction texts with
  | nil => exact absurd rfl h
  | cons s texts ih =>
    cases texts with
    | nil => simp
    | cons s' texts =>
      rw [String.intercalate_cons_cons, mem_alternatives_bar, ih (List.cons_ne_nil _ _)]
      simp only [List.mem_cons, exists_eq_or_imp]

/-! ## The alternatives of a type -/

mutual

/-- The type and all types inside it, at every depth. -/
def parts : TypeShape → List TypeShape
  | .union members => .union members :: partsOf members
  | t => [t]

def partsOf : List TypeShape → List TypeShape
  | [] => []
  | t :: ts => t.parts ++ partsOf ts

end

theorem partsOf_eq_flatMap (ts : List TypeShape) : partsOf ts = ts.flatMap parts := by
  induction ts with
  | nil => rfl
  | cons t ts ih => rw [partsOf, ih, List.flatMap_cons]

theorem mem_parts_self (t : TypeShape) : t ∈ t.parts := by
  cases t <;> exact List.mem_cons_self

theorem mem_parts_union {ms : List TypeShape} {t part : TypeShape} (ht : t ∈ ms)
    (h : part ∈ t.parts) : part ∈ (union ms).parts := by
  rw [parts, partsOf_eq_flatMap]
  exact List.mem_cons_of_mem _ (List.mem_flatMap_of_mem ht h)

/-- Beside nils there is one member: what some member has is what this one or nil has. -/
theorem exists_mem_iff_of_single {ms : List TypeShape} {t : TypeShape}
    (hrest : ms.filter (!·.isNil) = [t]) (hnil : nil ∈ ms) {P : TypeShape → Prop} :
    (∃ u ∈ ms, P u) ↔ P t ∨ P nil := by
  have hmem (u : TypeShape) : u ∈ ms ∧ u.isNil = false ↔ u = t := by
    have hfilter : u ∈ ms.filter (!·.isNil) ↔ u = t := by
      rw [hrest, List.mem_singleton]
    rw [← hfilter, List.mem_filter, Bool.not_eq_true']
  constructor
  · rintro ⟨u, hu, h⟩
    cases hn : u.isNil with
    | true => exact .inr (isNil_iff.mp hn ▸ h)
    | false => exact .inl ((hmem u).mp ⟨hu, hn⟩ ▸ h)
  · rintro (h | h)
    · exact ⟨t, ((hmem t).mpr rfl).1, h⟩
    · exact ⟨nil, hnil, h⟩

theorem mem_alternatives_nil : text ∈ alternatives nil.description ↔ text = "()" := by
  rw [alternatives_of_unmarked (by decide) (by decide), List.mem_singleton]
  rfl

theorem mem_alternatives_union {ms : List TypeShape} (h : ms ≠ []) :
    text ∈ alternatives (union ms).description ↔ ∃ t ∈ ms, text ∈ alternatives t.description := by
  have hlisted : text ∈ alternatives ("|".intercalate (ms.map description)) ↔
      ∃ t ∈ ms, text ∈ alternatives t.description := by
    rw [mem_alternatives_intercalate (by simpa using h)]
    simp
  rw [description_union_eq]
  split
  · next t hrest =>
    split
    · next hany =>
      obtain ⟨u, hu, hn⟩ := List.any_eq_true.mp hany
      have hnil : nil ∈ ms := isNil_iff.mp hn ▸ hu
      rw [mem_alternatives_mark, exists_mem_iff_of_single hrest hnil, mem_alternatives_nil]
    · exact hlisted
  · exact hlisted

/-- **Descriptions name the alternatives.** Where no union is empty and no alternative is itself
described with a bar or a question mark, the description of a type names exactly its alternatives,
however unions and optional types are nested in one another. -/
theorem mem_alternatives_description (t : TypeShape) (hfilled : ∀ part ∈ t.parts, part ≠ union [])
    (hplain : ∀ leaf ∈ t.leaves, '|' ∉ leaf.description.toList ∧ '?' ∉ leaf.description.toList)
    (text : String) :
    text ∈ alternatives t.description ↔ text ∈ t.leaves.map description := by
  induction t with
  | union ms ih =>
    have hne : ms ≠ [] := by
      rintro rfl
      exact hfilled _ (mem_parts_self _) rfl
    rw [mem_alternatives_union hne, leaves, leavesOf_eq_flatMap, List.map_flatMap, List.mem_flatMap]
    refine exists_congr fun t => and_congr_right fun ht => ih t ht ?_ ?_
    · exact fun part hpart => hfilled part (mem_parts_union ht hpart)
    · exact fun leaf hleaf => hplain leaf (mem_leaves_union.mpr ⟨t, ht, hleaf⟩)
  | _ =>
    obtain ⟨hbar, hmark⟩ := hplain _ List.mem_cons_self
    rw [alternatives_of_unmarked hbar hmark]
    rfl

/-- An optional type made optional again, beside another type. -/
theorem mem_alternatives_description_optional :
    let t : TypeShape := union [other "string", optional (optional (named "websub" "Hub"))]
    (∀ part ∈ t.parts, part ≠ union []) ∧
      (∀ leaf ∈ t.leaves, '|' ∉ leaf.description.toList ∧ '?' ∉ leaf.description.toList) ∧
      t.description = "string|websub:Hub??" ∧
      ∀ text, text ∈ alternatives "string|websub:Hub??" ↔
        text ∈ ["string", "websub:Hub", "()", "()"] := by
  intro t
  have hfilled : ∀ part ∈ t.parts, part ≠ union [] := by decide
  have hplain : ∀ leaf ∈ t.leaves,
      '|' ∉ leaf.description.toList ∧ '?' ∉ leaf.description.toList := by decide
  have hdescription : t.description = "string|websub:Hub??" := by decide
  have hleaves : t.leaves.map description = ["string", "websub:Hub", "()", "()"] := by decide
  refine ⟨hfilled, hplain, hdescription, fun text => ?_⟩
  rw [← hdescription, ← hleaves]
  exact mem_alternatives_description t hfilled hplain text

end SubscriberContract.TypeShape
