import SubscriberContract.Proofs.Model.QualifiedName
import SubscriberContract.Proofs.Validation.Reports

/-!
# Which types have a name of the contract

The names of the contract are all of the form `websub:N`, with no other colon. A type is compared
with them as a flat text, so it has to be shown that no other module and no other name give the same
text (`isNamed_reference_iff`, `isNamed_error_iff`). For the checks it follows that an error needs a
module to be accepted at all (`ofParameters_ne_none_of_blank`, `ofReturn_ne_none_of_blank`), and
that of organisation and version nothing counts but what they take out of the signature
(`ofParameters_error_congr`, `ofReturn_error_congr`).
-/

namespace SubscriberContract

open Validation

namespace Contract

/-- The module of all names of the contract. -/
def origin : String := "websub"

/-- A name of the contract is the module's and a name without a colon behind it. -/
theorem exists_name_of_mem {c : Callback} (hc : c ∈ callbacks) {text : String}
    (h : text ∈ c.parameters ++ c.returns) :
    ∃ name : String, ':' ∉ name.toList ∧ text = origin ++ ":" ++ name := by
  have hall : ∀ text ∈ c.parameters ++ c.returns, ':' ∉ text.toList.drop 7 ∧
      text = origin ++ ":" ++ String.ofList (text.toList.drop 7) := by
    rcases mem_callbacks.mp hc with rfl | rfl | rfl <;> decide
  obtain ⟨hcolon, htext⟩ := hall text h
  refine ⟨_, ?_, htext⟩
  rwa [String.toList_ofList]

theorem colon_not_mem_origin : ':' ∉ origin.toList := by decide

theorem origin_ne_empty : origin ≠ "" := by decide

variable {name : String}

theorem isNamed_reference_iff (h : ':' ∉ name.toList) (o : Option String) (n : String) :
    (TypeShape.reference o n).IsNamed (origin ++ ":" ++ name) ↔
      (∃ o' ∈ o, Text.TrimsTo o'.toList origin.toList ∧ n = name) ∨
        BlankOrigin o ∧ n = origin ++ ":" ++ name := by
  unfold TypeShape.IsNamed TypeShape.qualifiedName?
  rw [Option.some.injEq]
  exact qualify_eq_iff colon_not_mem_origin origin_ne_empty h o n

theorem isNamed_error_iff (h : ':' ∉ name.toList) (o : Option ModuleId) (signature : String) :
    (TypeShape.error o signature).IsNamed (origin ++ ":" ++ name) ↔
      ∃ m ∈ o, m.GoesBy origin ∧ m.LocalName signature name := by
  unfold TypeShape.IsNamed TypeShape.qualifiedName?
  rw [Option.some.injEq]
  exact TypeShape.errorName_eq_iff colon_not_mem_origin origin_ne_empty h o signature

/-- An error without a module, or with one that goes by blanks only, has no name of the contract. -/
theorem not_isNamed_error {c : Callback} (hc : c ∈ callbacks) {o : Option ModuleId}
    (ho : ∀ m ∈ o, m.GoesBy "") (signature : String) {text : String}
    (htext : text ∈ c.parameters ++ c.returns) :
    ¬ (TypeShape.error o signature).IsNamed text := by
  obtain ⟨name, hname, rfl⟩ := exists_name_of_mem hc htext
  rw [isNamed_error_iff hname]
  rintro ⟨m, hm, hgoes, -⟩
  have horigin := ModuleId.goesBy_iff.mp hgoes
  have hblank := ModuleId.goesBy_iff.mp (ho m hm)
  have hlist : origin.toList = "".toList := horigin.eq_trimBlanks.symm.trans hblank.eq_trimBlanks
  exact origin_ne_empty (String.toList_inj.mp hlist)

end Contract

namespace Validation

variable {m : Method} {s : Signature} {c : Callback} {t t' : TypeShape}

/-! ## Errors without a module -/

section

variable {o : Option ModuleId} {signature : String}

theorem ofParameters_ne_none_of_blank (hc : c ∈ Contract.callbacks) (ho : ∀ m ∈ o, m.GoesBy "")
    (ht : t ∈ s.params) (hpeel : t.peel = .error o signature) : ofParameters m s c ≠ none := by
  intro hnone
  obtain ⟨-, hall⟩ := (ofParameters_eq_none_iff m s hc).mp hnone
  obtain ⟨name, hname, hnamed | hother⟩ := hall t ht
  · rw [hpeel] at hnamed
    exact Contract.not_isNamed_error hc ho signature (List.mem_append_left _ hname) hnamed
  · rw [hpeel] at hother
    cases hother

theorem ofReturn_ne_none_of_blank (hc : c ∈ Contract.callbacks) (ho : ∀ m ∈ o, m.GoesBy "")
    (ht : s.result = some t) (hleaf : .error o signature ∈ t.leaves) :
    ofReturn m s c ≠ none := by
  intro hnone
  have hallows := (ofReturn_eq_none_iff m s c).mp hnone
  rw [ht] at hallows
  rcases hallows _ hleaf with ⟨hnil, -⟩ | ⟨name, hname, hnamed⟩
  · cases hnil
  · exact Contract.not_isNamed_error hc ho signature (List.mem_append_right _ hname) hnamed

end

/-! ## Errors with one name -/

section

variable {o o' : Option ModuleId} {signature signature' : String}

theorem ofParameters_error_congr
    (h : TypeShape.errorName o signature = TypeShape.errorName o' signature')
    (hpeel : t.peel = .error o signature) (hpeel' : t'.peel = .error o' signature')
    (before after : List TypeShape) (result : Option TypeShape) :
    ofParameters m ⟨before ++ t :: after, result⟩ c =
      ofParameters m ⟨before ++ t' :: after, result⟩ c := by
  have hdescription : t.description = t'.description := by
    rw [← t.description_peel, ← t'.description_peel, hpeel, hpeel', TypeShape.description,
      TypeShape.description, h]
  refine ofParameters_congr ?_ m result c
  simp [hdescription]

theorem ofReturn_error_congr
    (h : TypeShape.errorName o signature = TypeShape.errorName o' signature')
    {before after : List TypeShape} (hleaves : t.leaves = before ++ .error o signature :: after)
    (hleaves' : t'.leaves = before ++ .error o' signature' :: after) (params : List TypeShape) :
    ofReturn m ⟨params, some t⟩ c = none ↔ ofReturn m ⟨params, some t'⟩ c = none := by
  have hallows : c.AllowsLeaf (.error o signature) ↔ c.AllowsLeaf (.error o' signature') := by
    simp [Callback.AllowsLeaf, TypeShape.IsNamed, TypeShape.qualifiedName?, h]
  rw [ofReturn_eq_none_iff, ofReturn_eq_none_iff]
  unfold Callback.AllowsReturn
  dsimp only
  rw [hleaves, hleaves']
  simp only [List.forall_mem_append, List.forall_mem_cons, hallows]

end

end Validation

/-- **Names of the contract.** Each name that a callback lists is `websub:N` for some `N`. A
reference has this name if its module is `websub` up to blanks and its name is `N`, or it has no
module and is called `websub:N`; an error has it if the last segment of its module's name is
`websub` up to blanks and its signature becomes `N` without the printed identity and without colons.
So an error without a module, or with one that goes by blanks only, is always reported; and of two
errors whose modules have one name, and of whose signatures the same is left without the printed
identities, one is reported where the other is, whatever the organisations and the versions are. -/
theorem Contract.named_types {c : Callback} (hc : c ∈ callbacks) :
    (∀ text ∈ c.parameters ++ c.returns, ∃ name, text = "websub:" ++ name ∧
      (∀ o n, (TypeShape.reference o n).IsNamed text ↔
        (∃ o' ∈ o, Text.TrimsTo o'.toList "websub".toList ∧ n = name) ∨
          BlankOrigin o ∧ n = text) ∧
      ∀ o signature, (TypeShape.error o signature).IsNamed text ↔
        ∃ m ∈ o, m.GoesBy "websub" ∧ m.LocalName signature name) ∧
    (∀ (o : Option ModuleId) (signature : String), (∀ m ∈ o, m.GoesBy "") →
      ∀ (m : Method) (s : Signature) (t : TypeShape),
        (t ∈ s.params → t.peel = .error o signature → ofParameters m s c ≠ none) ∧
        (s.result = some t → .error o signature ∈ t.leaves → ofReturn m s c ≠ none)) ∧
    ∀ (id id' : ModuleId) (signature signature' : String) (rest : List Char),
      id.name = id'.name → Text.Erased id.print.toList signature.toList rest →
      Text.Erased id'.print.toList signature'.toList rest →
      ∀ (m : Method) (t t' : TypeShape) (before after : List TypeShape),
        (t.peel = .error (some id) signature → t'.peel = .error (some id') signature' →
          ∀ result, ofParameters m ⟨before ++ t :: after, result⟩ c =
            ofParameters m ⟨before ++ t' :: after, result⟩ c) ∧
        (t.leaves = before ++ .error (some id) signature :: after →
          t'.leaves = before ++ .error (some id') signature' :: after →
          ∀ params, (ofReturn m ⟨params, some t⟩ c = none ↔
            ofReturn m ⟨params, some t'⟩ c = none)) := by
  refine ⟨fun text htext => ?_, fun o signature ho m s t =>
    ⟨ofParameters_ne_none_of_blank hc ho, ofReturn_ne_none_of_blank hc ho⟩, ?_⟩
  · obtain ⟨name, hname, rfl⟩ := exists_name_of_mem hc htext
    have hstart : origin ++ ":" = "websub:" := by decide
    exact ⟨name, congrArg (· ++ name) hstart, isNamed_reference_iff hname,
      isNamed_error_iff hname⟩
  · intro id id' signature signature' rest hid h h' m t t' before after
    have hname := TypeShape.errorName_congr hid h h'
    exact ⟨fun hpeel hpeel' => ofParameters_error_congr hname hpeel hpeel' before after,
      fun hleaves hleaves' => ofReturn_error_congr hname hleaves hleaves'⟩

/-- The error of the module that a front end knows, the same error of another organisation and
version, and one without a module. -/
theorem Contract.named_types_deletion :
    let text := "websub:SubscriptionDeletedError"
    let id : ModuleId := ⟨"ballerina", "websub", "2.1.0"⟩
    let id' : ModuleId := ⟨"acme", "websub", "9"⟩
    let signature := "ballerina/websub:2.1.0:SubscriptionDeletedError"
    let signature' := "acme/websub:9:SubscriptionDeletedError"
    let m : Method := ⟨onNotification.name, [.remote], .between 50 90, none⟩
    onNotification ∈ callbacks ∧ text ∈ onNotification.parameters ++ onNotification.returns ∧
      (TypeShape.error (some id) signature).IsNamed text ∧
      ofReturn m ⟨[], some (.error none signature)⟩ onNotification ≠ none ∧
      ofParameters m ⟨[.error none signature], none⟩ onNotification ≠ none ∧
      (ofReturn m ⟨[], some (.optional (.error (some id) signature))⟩ onNotification = none ↔
        ofReturn m ⟨[], some (.optional (.error (some id') signature'))⟩ onNotification =
          none) := by
  intro text id id' signature signature' m
  have hc : onNotification ∈ callbacks := by decide
  have htext : text ∈ onNotification.parameters ++ onNotification.returns := by decide
  obtain ⟨hnames, hrejected, halike⟩ := named_types hc
  obtain ⟨name, hname, -, herror⟩ := hnames text htext
  have hlocal : String.ofList (Text.erase [':'] (Text.erase id.print.toList signature.toList)) =
      name := by
    have hlist : "websub:".toList ++ "SubscriptionDeletedError".toList =
        "websub:".toList ++ name.toList := by
      rw [← String.toList_append, ← String.toList_append, ← hname]
      decide
    rw [← String.toList_inj, String.toList_ofList, ← List.append_cancel_left hlist]
    decide
  have hgoes : id.GoesBy "websub" :=
    ModuleId.goesBy_iff.mpr (Text.trimBlanks_eq_iff.mp (by decide))
  have hrest : Text.Erased id.print.toList signature.toList ":SubscriptionDeletedError".toList :=
    (Text.erase_eq_iff id.print_ne_nil).mp (by decide)
  have hrest' : Text.Erased id'.print.toList signature'.toList
      ":SubscriptionDeletedError".toList := (Text.erase_eq_iff id'.print_ne_nil).mp (by decide)
  have hnone : ∀ m ∈ (none : Option ModuleId), m.GoesBy "" := nofun
  refine ⟨hc, htext, (herror _ _).mpr ⟨id, rfl, hgoes, ModuleId.localName_iff.mpr hlocal⟩, ?_, ?_,
    (halike id id' signature signature' _ rfl hrest hrest' m _ _ [] [.nil]).2 rfl rfl []⟩
  · exact (hrejected none signature hnone m _ _).2 rfl List.mem_cons_self
  · exact (hrejected none signature hnone m _ _).1 List.mem_cons_self rfl

end SubscriberContract
