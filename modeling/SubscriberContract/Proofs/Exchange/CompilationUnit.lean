import SubscriberContract.Exchange.CompilationUnit
import SubscriberContract.Proofs.Exchange.TypeShape
import SubscriberContract.Proofs.Json.Records

/-!
# Unit files, written and read

Each format of a unit file is faithful for the values whose module identities can all be read back.
What stands for an absent member is written with its brackets, so the room that a format needs at
least grows by one level from a record to the record around it.
-/

namespace SubscriberContract

open Json (Format FromTree Members Respelled Spells Tagged)

/-- All these module identities can be read back. -/
def WellFormedAll (ms : List ModuleId) : Prop := ∀ m ∈ ms, m.WellFormed

theorem wellFormedAll_append {ms ns : List ModuleId} :
    WellFormedAll (ms ++ ns) ↔ WellFormedAll ms ∧ WellFormedAll ns := List.forall_mem_append

theorem wellFormedAll_flatMap {α : Type} {as : List α} {f : α → List ModuleId} :
    WellFormedAll (as.flatMap f) ↔ ∀ a ∈ as, WellFormedAll (f a) := by
  constructor
  · exact fun h a ha m hm => h m (List.mem_flatMap_of_mem ha hm)
  · intro h m hm
    obtain ⟨a, ha, hm⟩ := List.mem_flatMap.mp hm
    exact h a ha m hm

/-! ## Module identities inside values -/

def Signature.moduleIds (s : Signature) : List ModuleId :=
  s.params.flatMap TypeShape.moduleIds ++ s.result.toList.flatMap TypeShape.moduleIds

def Method.moduleIds (m : Method) : List ModuleId := m.signature.toList.flatMap Signature.moduleIds

def Service.moduleIds (s : Service) : List ModuleId := s.methods.flatMap Method.moduleIds

def CompilationUnit.moduleIds (u : CompilationUnit) : List ModuleId :=
  u.services.flatMap Service.moduleIds

theorem Signature.wellFormedAll_iff {s : Signature} : WellFormedAll s.moduleIds ↔
    (∀ t ∈ s.params, t.Printable) ∧ ∀ t ∈ s.result, t.Printable := by
  rw [moduleIds, wellFormedAll_append, wellFormedAll_flatMap, wellFormedAll_flatMap]
  simp [TypeShape.Printable, WellFormedAll]

theorem Method.wellFormedAll_iff {m : Method} :
    WellFormedAll m.moduleIds ↔ ∀ s ∈ m.signature, WellFormedAll s.moduleIds := by
  rw [moduleIds, wellFormedAll_flatMap]
  simp

theorem Service.wellFormedAll_iff {s : Service} :
    WellFormedAll s.moduleIds ↔ ∀ m ∈ s.methods, WellFormedAll m.moduleIds := wellFormedAll_flatMap

theorem CompilationUnit.wellFormedAll_iff {u : CompilationUnit} :
    WellFormedAll u.moduleIds ↔ ∀ s ∈ u.services, WellFormedAll s.moduleIds := wellFormedAll_flatMap

/-! ## Values without types -/

/-- The start of a span is read back as the start, since it is not after the end. -/
theorem Span.between_start_stop (s : Span) : .between s.start s.stop = s := by
  rw [between, dif_pos s.ordered]

theorem Span.faithful : Span.format.Faithful (fun _ => True) 1 := by
  have hmembers : (Members.required "start" .word <| .required "end" .word .done).Faithful
      (fun _ => True ∧ True ∧ True) 0 :=
    .required .word (by decide) <| .required .word (by decide) .done
  exact {
    written := fun s => Json.written_object (hmembers.written _)
    takes := fun {_ s} _ hd =>
      Json.record_takes_tree hmembers (between_start_stop s) ⟨trivial, trivial, trivial⟩ hd
    blank := fun _ _ hw => Json.afterSpaces_blank hw
    misses := fun _ hd => Json.record_misses hmembers ⟨trivial, trivial, trivial⟩ hd
    lands := fun hroom _ _ _ _ => ⟨trivial, hroom⟩ }

theorem Qualifier.faithful : Qualifier.format.Faithful (fun _ => True) 0 :=
  .choice fun q => by cases q <;> rfl

theorem Annotation.faithful : Annotation.format.Faithful (fun _ => True) 1 := by
  have htext : (Format.optional .text).Faithful (fun _ => True) 0 :=
    (Format.Faithful.optional .text nofun).congr fun _ => by simp
  have hrecord : Annotation.format.Faithful _ 1 :=
    .record (.defaulted htext (by decide) trivial (Nat.le_refl 0) <|
      .defaulted htext (by decide) trivial (Nat.le_refl 0) .done) (fun _ => rfl) fun _ => rfl
  exact hrecord.congr fun a => by simp

namespace Argument

/-- The tag of an argument's object. -/
def form : Argument → String
  | .positional _ => "positional"
  | .named .. => "named"
  | .rest _ => "rest"

/-- What stands beside the tag. -/
def beside : Argument → List (String × Json)
  | .positional e | .rest e => [("expression", .text e.name)]
  | .named name e => [("name", .text name), ("expression", .text e.name)]

theorem tree_eq (a : Argument) : a.tree = .object (("form", .text a.form) :: a.beside) := by
  cases a <;> rfl

theorem variant_form (a : Argument) (build : String → FromTree Argument) :
    Tagged.variant ⟨"form", "Argument", ["positional", "named", "rest"], build⟩ a.form =
      .ok a.form := by
  cases a <;> rfl

theorem beside_ne_tag (a : Argument) : ∀ p ∈ a.beside, p.1 ≠ "form" := by
  cases a <;> simp [beside]

theorem depth_tree (a : Argument) : a.tree.depth = 1 := by
  cases a <;> rfl

theorem kindFromTree_name (e : ExpressionKind) :
    choiceFromTree ExpressionKind.all ExpressionKind.name (.text e.name) = .ok e := by
  cases e <;> rfl

theorem fieldsBeside_ne_tag (a : Argument) : ∀ f ∈ fieldsBeside a.form, f.name ≠ "form" := by
  cases a <;> simp [fieldsBeside, form]

theorem kind_respelled {e : ExpressionKind} {j : Json} (h : Respelled .plain (.text e.name) j) :
    choiceFromTree ExpressionKind.all ExpressionKind.name j = .ok e := by
  obtain rfl := h.of_plain
  exact kindFromTree_name e

theorem build_respelled {a : Argument} {members : List (String × Json)}
    (hs : Spells (⟨"form", none, .plain⟩ :: fieldsBeside a.form)
      ((fieldsBeside a.form).map Field.name) a.beside members) :
    build a.form (.object members) = .ok a := by
  have hd := Json.depthOfMembers_le.mp (Nat.le_refl (Json.depthOfMembers members))
  cases a with
  | positional e | rest e =>
    exact Members.Spelt.build hs hd (.required (fun j hj _ => kind_respelled hj)
      (by simp [fieldsBeside, form]) nofun .done) rfl
  | named name e =>
    exact Members.Spelt.build hs hd
      (.required (fun j hj _ => TypeShape.text_respelled hj) (by simp [fieldsBeside, form])
        (by decide) <|
      .required (fun j hj _ => kind_respelled hj) (by simp [fieldsBeside, form]) nofun .done)
      rfl

theorem lenient : format.Lenient (.one .argument) fun _ => True :=
  .tagged (fun _ => rfl) tree_eq (fun a => a.variant_form _) fieldsBeside_ne_tag beside_ne_tag
    fun _ _ _ => build_respelled

theorem written_tree (a : Argument) : Json.Written .exact a.tree a.tree.chars := by
  rw [tree_eq]
  refine Json.written_object (List.forall_mem_cons.mpr ⟨Json.written_text a.form, ?_⟩)
  cases a with
  | positional e | rest e => exact List.forall_mem_singleton.mpr (Json.written_text e.name)
  | named name e =>
    exact List.forall_mem_cons.mpr
      ⟨Json.written_text name, List.forall_mem_singleton.mpr (Json.written_text e.name)⟩

theorem faithful : format.Faithful (fun _ => True) 0 where
  written := written_tree
  takes := fun _ hd => lenient trivial (.same _ _) hd
  blank := fun room _ hw => Tagged.format_blank _ room hw
  misses := fun {_ a} _ hd =>
    Tagged.format_misses (tree_eq a) (a.variant_form _) a.beside_ne_tag hd
  lands := by
    intro room _ s a s' hs
    obtain ⟨variant, beside, hleast, hmost, -⟩ := Tagged.format_gives _ room hs
    exact ⟨trivial, a.depth_tree ▸ Nat.le_trans hleast hmost⟩

end Argument

theorem Listener.faithful : Listener.format.Faithful (fun _ => True) 2 := by
  have harguments : (Format.optional (.list Argument.format)).Faithful (fun _ => True) 1 :=
    (Format.Faithful.optional (.list Argument.faithful) nofun).congr fun _ => by simp
  have hrecord : Listener.format.Faithful _ 2 :=
    .record (.required Span.faithful (by decide) <|
      .defaulted harguments (by decide) trivial (Nat.zero_le 1) .done) (fun _ => rfl) fun _ => rfl
  exact hrecord.congr fun l => by simp

/-! ## Values with types -/

theorem TypeShape.tree_ne_null (t : TypeShape) : t.tree ≠ .null := by
  rw [tree_eq]
  exact nofun

theorem Signature.faithful : Signature.format.Faithful (fun s => WellFormedAll s.moduleIds) 2 := by
  have hparams : (Format.list TypeShape.format).Faithful _ 1 := .list TypeShape.faithful
  have hresult : (Format.optional TypeShape.format).Faithful _ 1 :=
    (Format.Faithful.optional TypeShape.faithful TypeShape.tree_ne_null).mono (by decide)
  have hrecord : Signature.format.Faithful _ 2 :=
    .record (.defaulted hparams (by decide) (List.forall_mem_nil _) (Nat.le_refl 1) <|
      .defaulted hresult (by decide) nofun (Nat.zero_le 1) .done) (fun _ => rfl) fun _ => rfl
  exact hrecord.congr fun s => by simp [wellFormedAll_iff]

theorem Method.faithful : Method.format.Faithful (fun m => WellFormedAll m.moduleIds) 3 := by
  have hqualifiers : (Format.list Qualifier.format).Faithful _ 2 :=
    (Format.Faithful.list Qualifier.faithful).mono (by decide)
  have hsignature : (Format.optional Signature.format).Faithful _ 2 :=
    .optional Signature.faithful nofun
  have hrecord : Method.format.Faithful _ 3 :=
    .record (.required (Format.Faithful.text.mono (by decide)) (by decide) <|
      .defaulted hqualifiers (by decide) (List.forall_mem_nil _) (by decide) <|
      .required (Span.faithful.mono (by decide)) (by decide) <|
      .defaulted hsignature (by decide) nofun (Nat.zero_le 2) .done) (fun _ => rfl) fun _ => rfl
  exact hrecord.congr fun m => by simp [wellFormedAll_iff]

theorem Service.faithful : Service.format.Faithful (fun s => WellFormedAll s.moduleIds) 5 := by
  have hannotations : (Format.list Annotation.format).Faithful _ 4 :=
    (Format.Faithful.list Annotation.faithful).mono (by decide)
  have hmethods : (Format.list Method.format).Faithful _ 4 := .list Method.faithful
  have hrecord : Service.format.Faithful _ 5 :=
    .record (.required (Span.faithful.mono (by decide)) (by decide) <|
      .defaulted hannotations (by decide) (List.forall_mem_nil _) (by decide) <|
      .defaulted hmethods (by decide) (List.forall_mem_nil _) (by decide) .done)
      (fun _ => rfl) fun _ => rfl
  exact hrecord.congr fun s => by simp [wellFormedAll_iff]

theorem CompilationUnit.faithful :
    CompilationUnit.format.Faithful (fun u => WellFormedAll u.moduleIds) 7 := by
  have hsource : (Format.optional .text).Faithful _ 6 :=
    (Format.Faithful.optional .text nofun).mono (by decide)
  have hlisteners : (Format.list Listener.format).Faithful _ 6 :=
    (Format.Faithful.list Listener.faithful).mono (by decide)
  have hservices : (Format.list Service.format).Faithful _ 6 := .list Service.faithful
  have hrecord : CompilationUnit.format.Faithful _ 7 :=
    .record (.defaulted hsource (by decide) nofun (by decide) <|
      .defaulted hlisteners (by decide) (List.forall_mem_nil _) (by decide) <|
      .defaulted hservices (by decide) (List.forall_mem_nil _) (by decide) .done)
      (fun _ => rfl) fun _ => rfl
  exact hrecord.congr fun u => by simp [wellFormedAll_iff]

end SubscriberContract
