import SubscriberContract.Proofs.Model.QualifiedName
import SubscriberContract.Proofs.Validation.Acceptance

/-!
# Errors as hosts print them

A host prints an error as the identity of its module, a colon and its name. What is recovered from
this text is the name of a reference through the module's short name (`errorName_print`), so the two
types are alike for everything that looks at a type: its description, whether it is nil, and whether
it is rejected as a return type. Types that are alike stay so as members of the same unions
(`Alike.member`, the step) and hence at every depth (`Alike.under`), and no check tells them apart.
-/

namespace SubscriberContract

open Validation

namespace TypeShape

/-- A type as a member of the unions around it, the innermost first; of each union the members in
front of the type and behind it are given. -/
def under (t : TypeShape) : List (List TypeShape × List TypeShape) → TypeShape
  | [] => t
  | (before, after) :: around => (union (before ++ t :: after)).under around

/-- Messages and checks do not tell the two types apart. -/
structure Alike (t t' : TypeShape) : Prop where
  description : t.description = t'.description
  isNil : t.isNil = t'.isNil
  rejects : ∀ c, rejects c t = rejects c t'

variable {t t' : TypeShape}

theorem description_member_congr (h : t.description = t'.description) (hn : t.isNil = t'.isNil)
    (before after : List TypeShape) :
    (union (before ++ t :: after)).description = (union (before ++ t' :: after)).description := by
  have hkept (u : TypeShape) : (before ++ u :: after).filter (!·.isNil) =
      before.filter (!·.isNil) ++
        if !u.isNil then u :: after.filter (!·.isNil) else after.filter (!·.isNil) := by
    rw [List.filter_append, List.filter_cons]
  have hany : (before ++ t :: after).any TypeShape.isNil =
      (before ++ t' :: after).any TypeShape.isNil := by
    simp [hn]
  have htexts : (before ++ t :: after).map TypeShape.description =
      (before ++ t' :: after).map TypeShape.description := by
    simp [h]
  rw [description_union_eq, description_union_eq, hkept, hkept, hany, htexts, ← hn]
  generalize before.filter (!·.isNil) = front
  generalize after.filter (!·.isNil) = back
  cases t.isNil with
  | true => rfl
  | false =>
    -- the member is the only one beside nils in both unions, or in both the members are listed
    rcases front with _ | ⟨u, _ | ⟨v, front⟩⟩ <;> rcases back with _ | ⟨w, back⟩ <;> simp [h]

theorem Alike.member (h : Alike t t') (before after : List TypeShape) :
    Alike (union (before ++ t :: after)) (union (before ++ t' :: after)) where
  description := description_member_congr h.description h.isNil before after
  isNil := rfl
  rejects c := by
    simp only [Validation.rejects, rejectsAny_eq_any, List.any_append, List.any_cons, h.rejects c]

theorem Alike.under (h : Alike t t') (around : List (List TypeShape × List TypeShape)) :
    Alike (t.under around) (t'.under around) := by
  induction around generalizing t t' with
  | nil => exact h
  | cons members around ih => exact ih (h.member members.1 members.2)

theorem Alike.ofParameters_eq (h : Alike t t') (m : Method) (before after : List TypeShape)
    (result : Option TypeShape) (c : Callback) :
    ofParameters m ⟨before ++ t :: after, result⟩ c =
      ofParameters m ⟨before ++ t' :: after, result⟩ c := by
  refine ofParameters_congr ?_ m result c
  simp [h.description]

theorem Alike.ofReturn_eq (h : Alike t t') (m : Method) (params : List TypeShape) (c : Callback) :
    ofReturn m ⟨params, some t⟩ c = ofReturn m ⟨params, some t'⟩ c := by
  unfold ofReturn
  simp only [h.description, h.isNil, h.rejects c]

theorem alike_error_reference {o : Option ModuleId} {signature name : String}
    {origin : Option String} (h : errorName o signature = qualify origin name) :
    Alike (error o signature) (reference origin name) where
  description := h
  isNil := rfl
  rejects c := by rw [Validation.rejects, Validation.rejects, h]

/-- **Printed errors are references.** An error whose signature is the printed identity of its
module, a colon and a name without a colon has the qualified name and the description of the
reference to this name through the module's short name, whatever characters the parts of the
identity hold. So no callback tells them apart: as a parameter and as the return type, alone or
inside any unions, the one is reported exactly as the other is. -/
theorem printed_error_eq_reference (id : ModuleId) (name : String) (h : ':' ∉ name.toList) :
    let e := error (some id) (id.print ++ ":" ++ name)
    let r := reference (some id.shortName) name
    e.qualifiedName? = r.qualifiedName? ∧ e.description = r.description ∧
      ∀ (c : Callback) (m : Method) (around : List (List TypeShape × List TypeShape)),
        (∀ (before after : List TypeShape) (result : Option TypeShape),
          ofParameters m ⟨before ++ e.under around :: after, result⟩ c =
            ofParameters m ⟨before ++ r.under around :: after, result⟩ c) ∧
        ∀ params : List TypeShape, ofReturn m ⟨params, some (e.under around)⟩ c =
          ofReturn m ⟨params, some (r.under around)⟩ c := by
  intro e r
  have hname := errorName_print id h
  have halike : Alike e r := alike_error_reference hname
  refine ⟨congrArg some hname, halike.description, fun c m around => ⟨?_, ?_⟩⟩
  · intro before after result
    exact (halike.under around).ofParameters_eq m before after result c
  · intro params
    exact (halike.under around).ofReturn_eq m params c

/-- An identity with empty parts, and a name that is its text but for the colon at the end. -/
theorem printed_error_eq_reference_repeated :
    let id : ModuleId := ⟨"", "a.websub", ""⟩
    let e := error (some id) "/a.websub::/a.websub"
    let m : Method := ⟨Contract.onNotification.name, [.remote], .between 50 90, none⟩
    ':' ∉ "/a.websub".toList ∧ e.qualifiedName? = some "websub:/a.websub" ∧
      ofReturn m ⟨[], some (.optional e)⟩ Contract.onNotification =
        some (.of .invalidReturn m.span ["websub:/a.websub?", m.name]) := by
  intro id e m
  have hcolon : ':' ∉ "/a.websub".toList := by decide
  obtain ⟨hname, -, hchecks⟩ := printed_error_eq_reference id "/a.websub" hcolon
  have hprinted : id.print ++ ":" ++ "/a.websub" = "/a.websub::/a.websub" := by decide
  rw [hprinted] at hname hchecks
  refine ⟨hcolon, ?_, ?_⟩
  · rw [hname]
    decide
  · exact ((hchecks Contract.onNotification m [([], [.nil])]).2 []).trans (by decide)

end TypeShape
end SubscriberContract
