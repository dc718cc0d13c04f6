import SubscriberContract.Exchange.Diagnostic
import SubscriberContract.Proofs.Exchange.CompilationUnit
import SubscriberContract.Proofs.Json.Nesting

/-!
# Encoding and decoding

The types that are stored in JSON, and the two laws of their formats: a value is decoded from its
own text exactly if its module identities can be read back and the text is not too deep; and every
value that is decoded from some text is such a value.
-/

namespace SubscriberContract

open Json (Format)

/-! ## Diagnostics -/

theorem Severity.faithful : Severity.format.Faithful (fun _ => True) 0 :=
  .choice fun s => by cases s <;> rfl

theorem Code.faithful : Code.format.Faithful (fun _ => True) 0 :=
  .choice fun c => by cases c <;> rfl

theorem Diagnostic.faithful : Diagnostic.format.Faithful (fun _ => True) 2 := by
  have harguments : (Format.list .text).Faithful (fun _ => True) 1 :=
    (Format.Faithful.list .text).congr fun _ => by simp
  have hhint : (Format.optional .text).Faithful (fun _ => True) 1 :=
    ((Format.Faithful.optional .text nofun).congr fun _ => by simp).mono (by decide)
  have hrecord : Diagnostic.format.Faithful _ 2 :=
    .record (.required (Code.faithful.mono (by decide)) (by decide) <|
      .required (Severity.faithful.mono (by decide)) (by decide) <|
      .required Span.faithful (by decide) <| .required harguments (by decide) <|
      .required (Format.Faithful.text.mono (by decide)) (by decide) <|
      .nullable hhint (by decide) trivial (Nat.zero_le 1) .done) (fun _ => rfl) fun _ => rfl
  exact hrecord.congr fun d => by simp

/-! ## The types that are stored -/

/-- The types whose values are stored in JSON. -/
inductive StoredType
  | compilationUnit | service | method | signature | annotation | typeShape | moduleId | listener
  | argument | span | diagnostic
deriving DecidableEq, Repr

namespace StoredType

abbrev Value : StoredType → Type
  | .compilationUnit => CompilationUnit
  | .service => Service
  | .method => Method
  | .signature => Signature
  | annotation => Annotation
  | .typeShape => TypeShape
  | .moduleId => ModuleId
  | .listener => Listener
  | .argument => Argument
  | .span => Span
  | .diagnostic => Diagnostic

def format : (k : StoredType) → Format k.Value
  | .compilationUnit => CompilationUnit.format
  | .service => Service.format
  | .method => Method.format
  | .signature => Signature.format
  | annotation => Annotation.format
  | .typeShape => TypeShape.format
  | .moduleId => ModuleId.format
  | .listener => Listener.format
  | .argument => Argument.format
  | .span => Span.format
  | .diagnostic => Diagnostic.format

/-- The module identities inside a value. -/
def moduleIds : (k : StoredType) → k.Value → List ModuleId
  | .compilationUnit, u => CompilationUnit.moduleIds u
  | .service, s => Service.moduleIds s
  | .method, m => Method.moduleIds m
  | .signature, s => Signature.moduleIds s
  | .typeShape, t => TypeShape.moduleIds t
  | .moduleId, m => [m]
  | annotation, _ | .listener, _ | .argument, _ | .span, _ | .diagnostic, _ => []

theorem faithful (k : StoredType) :
    k.format.Faithful (fun v => WellFormedAll (k.moduleIds v)) 7 := by
  have hnone : ∀ {α : Type} (_ : α), True ↔ WellFormedAll [] := by simp [WellFormedAll]
  cases k with
  | compilationUnit => exact CompilationUnit.faithful
  | service => exact Service.faithful.mono (by decide)
  | method => exact Method.faithful.mono (by decide)
  | signature => exact Signature.faithful.mono (by decide)
  | typeShape => exact TypeShape.faithful.mono (by decide)
  | moduleId =>
    exact (ModuleId.faithful.mono (by decide)).congr fun m => by simp [moduleIds, WellFormedAll]
  | annotation => exact (Format.Faithful.mono Annotation.faithful (by decide)).congr hnone
  | listener => exact (Listener.faithful.mono (by decide)).congr hnone
  | argument => exact (Argument.faithful.mono (by decide)).congr hnone
  | span => exact (Span.faithful.mono (by decide)).congr hnone
  | diagnostic => exact (Diagnostic.faithful.mono (by decide)).congr hnone

/-- The text of a value nests as deep as its tree. -/
theorem nesting_encode (k : StoredType) (v : k.Value) :
    Json.nesting (k.format.encode v).toList = (k.format.tree v).depth := by
  rw [Format.encode, Json.compact, String.toList_ofList, (k.faithful.written v).nesting_eq]

/-- A value is decoded from its own text exactly if it may be. -/
theorem decode_encode_eq_iff (k : StoredType) (v : k.Value) :
    k.format.decode (k.format.encode v) = .ok v ↔
      (∀ m ∈ k.moduleIds v, m.WellFormed) ∧ Json.nesting (k.format.encode v).toList ≤ 127 := by
  rw [nesting_encode]
  exact k.faithful.decode_encode_iff (by decide) v

end StoredType

/-! ## Nested unions -/

namespace TypeShape

/-- A type under `n` unions of one member each. -/
def nest (t : TypeShape) : Nat → TypeShape
  | 0 => t
  | n + 1 => .union [t.nest n]

theorem moduleIds_nest (t : TypeShape) (n : Nat) : (t.nest n).moduleIds = t.moduleIds := by
  induction n with
  | zero => rfl
  | succ n ih => rw [nest, moduleIds, moduleIdsOf_eq_flatMap, List.flatMap_singleton, ih]

theorem depth_tree_nest (t : TypeShape) (n : Nat) :
    (t.nest n).tree.depth = 2 * n + t.tree.depth := by
  induction n with
  | zero => rw [nest, Nat.mul_zero, Nat.zero_add]
  | succ n ih =>
    rw [nest, tree_eq (.union _)]
    simp only [beside, List.map_cons, List.map_nil, Json.depth, Json.depthOfMembers,
      Json.depthOfItems]
    omega

theorem depth_tree_of_not_union {t : TypeShape} (h : ∀ ts, t ≠ .union ts) : t.tree.depth = 1 := by
  cases t with
  | union ts => exact absurd rfl (h ts)
  | reference origin name => cases origin <;> rfl
  | error origin signature => cases origin <;> rfl
  | nil | other => rfl

end TypeShape

/-! ## The laws -/

namespace StoredType

/-- **Encode, then decode.** A value is decoded from its own text exactly if its module identities
can all be read back and the text nests at most 127 deep. So a type that is no union may stand under
63 unions, and under no more. -/
theorem decode_encode :
    (∀ (k : StoredType) (v : k.Value), k.format.decode (k.format.encode v) = .ok v ↔
      (∀ m ∈ k.moduleIds v, m.WellFormed) ∧ Json.nesting (k.format.encode v).toList ≤ 127) ∧
    ∀ (leaf : TypeShape) (n : Nat), (∀ ts, leaf ≠ .union ts) →
      (TypeShape.format.decode (TypeShape.format.encode (leaf.nest n)) = .ok (leaf.nest n) ↔
        (∀ m ∈ leaf.moduleIds, m.WellFormed) ∧ n ≤ 63) := by
  refine ⟨decode_encode_eq_iff, fun leaf n hleaf => ?_⟩
  have hdepth : Json.nesting (TypeShape.format.encode (leaf.nest n)).toList = 2 * n + 1 := by
    rw [← TypeShape.depth_tree_of_not_union hleaf, ← TypeShape.depth_tree_nest leaf n]
    exact nesting_encode .typeShape (leaf.nest n)
  rw [← TypeShape.moduleIds_nest leaf n]
  refine (decode_encode_eq_iff .typeShape (leaf.nest n)).trans (and_congr_right fun _ => ?_)
  show Json.nesting (TypeShape.format.encode (leaf.nest n)).toList ≤ 127 ↔ n ≤ 63
  rw [hdepth]
  omega

/-- The deepest nil, and the first that is too deep. -/
theorem decode_encode_nil_under_unions :
    TypeShape.format.decode (TypeShape.format.encode (TypeShape.nil.nest 63)) =
      .ok (TypeShape.nil.nest 63) ∧
    TypeShape.format.decode (TypeShape.format.encode (TypeShape.nil.nest 64)) ≠
      .ok (TypeShape.nil.nest 64) := by
  have hnil : ∀ ts, TypeShape.nil ≠ .union ts := nofun
  have hids : ∀ m ∈ TypeShape.nil.moduleIds, m.WellFormed := List.forall_mem_nil _
  constructor
  · exact (decode_encode.2 .nil 63 hnil).mpr ⟨hids, by decide⟩
  · intro h
    exact absurd ((decode_encode.2 .nil 64 hnil).mp h).2 (by decide)

/-- **Decoding lands in the canonical values.** Whatever text a value was decoded from, it is
decoded from its own text, its module identities can all be read back, and its text is not too
deep. -/
theorem decode_encode_of_decode (k : StoredType) (text : String) (v : k.Value)
    (h : k.format.decode text = .ok v) :
    k.format.decode (k.format.encode v) = .ok v ∧ (∀ m ∈ k.moduleIds v, m.WellFormed) ∧
      Json.nesting (k.format.encode v).toList ≤ 127 := by
  obtain ⟨hids, hdepth⟩ := k.faithful.good_of_decode (by decide) h
  rw [← nesting_encode] at hdepth
  exact ⟨(decode_encode_eq_iff k v).mpr ⟨hids, hdepth⟩, hids, hdepth⟩

/-- A method whose span is inverted and an array, whose types are arrays too, with an unknown member
and an escape. -/
theorem decode_encode_loose_method :
    let m : Method := ⟨"on", [], .between 4 9, some ⟨[.error (some ⟨"a", "b", "1"⟩) ""], none⟩⟩
    Method.format.decode "\x7b\"x\": 1e5, \"span\": [9, 4], \"name\": \"\\u006fn\",
      \"signature\": [[[\"error\", \"a/b:1\", \"\"]]]\x7d" = .ok m ∧
    Method.format.decode (Method.format.encode m) = .ok m := by
  intro m
  have both : ∀ text, Method.format.decode text = .ok m → Method.format.decode text = .ok m ∧
      Method.format.decode (Method.format.encode m) = .ok m :=
    fun text h => ⟨h, (decode_encode_of_decode .method text m h).1⟩
  exact both _ (by decide +kernel)

end StoredType
end SubscriberContract
