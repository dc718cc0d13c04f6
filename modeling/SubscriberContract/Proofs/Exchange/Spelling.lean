import Mathlib.Data.List.Forall2
import SubscriberContract.Model.CompilationUnit
import SubscriberContract.Proofs.Json.Written

/-!
# Spellings of a compilation unit

Front ends spell the objects of a compilation unit differently. They may order the members as they
like, leave out those that stand for a default, and add others that the object does not know.
`Respelled` relates the tree of a value to its spellings, `Repeats` holds of the trees in which an
object has a member twice that it knows. Both look only where the format expects an object: what is
known there is listed in `Part.fields`.
-/

namespace SubscriberContract

/-- The kinds of objects in the text of a compilation unit; a mark is an annotation. -/
inductive Part
  | unit | listener | argument | service | mark | method | signature | type | span
deriving DecidableEq, Repr

/-- What a member holds: a value without objects of a known kind, one object, or an array of
objects; in place of an object or an array there may be null. -/
inductive Content
  | plain
  | one (p : Part)
  | many (p : Part)
deriving DecidableEq, Repr

/-- A member that an object knows. -/
structure Field where
  name : String
  /-- The value for which the member may be left out. -/
  omissible : Option Json
  inside : Content

/-- The members beside the tag of a type. -/
def TypeShape.fieldsBeside (kind : String) : List Field :=
  match kind with
  | "reference" => [⟨"module", some .null, .plain⟩, ⟨"name", none, .plain⟩]
  | "union" => [⟨"members", none, .many .type⟩]
  | "error" => [⟨"module", some .null, .plain⟩, ⟨"signature", none, .plain⟩]
  | "other" => [⟨"signature", none, .plain⟩]
  | _ => []

/-- The members beside the tag of an argument. -/
def Argument.fieldsBeside (form : String) : List Field :=
  match form with
  | "positional" | "rest" => [⟨"expression", none, .plain⟩]
  | "named" => [⟨"name", none, .plain⟩, ⟨"expression", none, .plain⟩]
  | _ => []

/-- The members that a tagged object knows: the tag, and those that go with it. -/
def taggedFields (tag : String) (beside : String → List Field) (members : List (String × Json)) :
    List Field :=
  ⟨tag, none, .plain⟩ ::
    match members.lookup tag with
    | some (.text t) => beside t
    | _ => []

/-- The members that an object knows. -/
def Part.fields (p : Part) (members : List (String × Json)) : List Field :=
  match p with
  | .unit => [⟨"source", some .null, .plain⟩, ⟨"listeners", some (.array []), .many .listener⟩,
    ⟨"services", some (.array []), .many .service⟩]
  | .listener => [⟨"span", none, .one .span⟩, ⟨"arguments", some .null, .many .argument⟩]
  | .argument => taggedFields "form" Argument.fieldsBeside members
  | .service => [⟨"span", none, .one .span⟩, ⟨"annotations", some (.array []), .many .mark⟩,
    ⟨"methods", some (.array []), .many .method⟩]
  | .mark => [⟨"name", some .null, .plain⟩, ⟨"module", some .null, .plain⟩]
  | .method => [⟨"name", none, .plain⟩, ⟨"qualifiers", some (.array []), .plain⟩,
    ⟨"span", none, .one .span⟩, ⟨"signature", some .null, .one .signature⟩]
  | .signature => [⟨"params", some (.array []), .many .type⟩,
    ⟨"returnType", some .null, .one .type⟩]
  | .type => taggedFields "kind" TypeShape.fieldsBeside members
  | .span => [⟨"start", none, .plain⟩, ⟨"end", none, .plain⟩]

/-- The names of the members that an object knows. -/
def Part.known (p : Part) (members : List (String × Json)) : List String :=
  (p.fields members).map Field.name

/-- What the member of this name holds; one that is not known holds no known objects. -/
def contentOf (fields : List Field) (name : String) : Content :=
  ((fields.find? (·.name = name)).map Field.inside).getD .plain

namespace Json

/-- The values of members that front ends add: null, truth values, texts, and integers of less than
`2 ^ 64` in magnitude. -/
inductive Plain : Json → Prop
  | null : Plain .null
  | boolean (b : Bool) : Plain (.boolean b)
  | text (s : String) : Plain (.text s)
  | natural {n : Nat} (h : n < UInt64.size) : Plain (.number (.natural n))
  | minus {n : Nat} (h : n < UInt64.size) : Plain (.number (.minus n))

mutual

/-- The second tree is a spelling of the first. -/
inductive Respelled : Content → Json → Json → Prop
  | same (c : Content) (j : Json) : Respelled c j j
  | array {p : Part} {js js' : List Json} (h : RespelledItems p js js') :
      Respelled (.many p) (.array js) (.array js')
  /-- The members that are kept and those that are added stand in any order. -/
  | object {p : Part} {members kept added members' : List (String × Json)}
      (hk : RespelledMembers (p.fields members) members kept)
      (ha : ∀ m ∈ added, m.1 ∉ p.known members ∧ Plain m.2)
      (hp : members'.Perm (kept ++ added)) :
      Respelled (.one p) (.object members) (.object members')

inductive RespelledItems : Part → List Json → List Json → Prop
  | nil (p : Part) : RespelledItems p [] []
  | cons {p : Part} {j j' : Json} {js js' : List Json} (h : Respelled (.one p) j j')
      (hs : RespelledItems p js js') : RespelledItems p (j :: js) (j' :: js')

inductive RespelledMembers : List Field → List (String × Json) → List (String × Json) → Prop
  | nil (fields : List Field) : RespelledMembers fields [] []
  | keep {fields : List Field} {name : String} {j j' : Json} {ms ms' : List (String × Json)}
      (h : Respelled (contentOf fields name) j j') (hs : RespelledMembers fields ms ms') :
      RespelledMembers fields ((name, j) :: ms) ((name, j') :: ms')
  | drop {fields : List Field} {name : String} {j : Json} {c : Content}
      {ms ms' : List (String × Json)} (h : ⟨name, some j, c⟩ ∈ fields)
      (hs : RespelledMembers fields ms ms') : RespelledMembers fields ((name, j) :: ms) ms'

end

/-- Somewhere in the tree an object has a member twice that it knows. -/
inductive Repeats : Content → Json → Prop
  | here {p : Part} {members : List (String × Json)} {name : String} (hn : name ∈ p.known members)
      (h : 2 ≤ (members.map Prod.fst).count name) : Repeats (.one p) (.object members)
  | member {p : Part} {members : List (String × Json)} {m : String × Json} (hm : m ∈ members)
      (h : Repeats (contentOf (p.fields members) m.1) m.2) : Repeats (.one p) (.object members)
  | item {p : Part} {items : List Json} {j : Json} (hj : j ∈ items) (h : Repeats (.one p) j) :
      Repeats (.many p) (.array items)

/-- The tree has this text, with white space around it. -/
def IsText (k : Precision) (j : Json) (text : String) : Prop :=
  ∃ w t w', Blank w ∧ Written k j t ∧ Blank w' ∧ text.toList = w ++ (t ++ w')

/-! ## What a spelling looks like -/

variable {c : Content} {p : Part} {j j' : Json}

theorem Respelled.of_plain (h : Respelled .plain j j') : j' = j := by
  cases h with
  | same => rfl

theorem RespelledMembers.refl (fields : List Field) (members : List (String × Json)) :
    RespelledMembers fields members members := by
  induction members with
  | nil => exact .nil fields
  | cons m members ih => exact .keep (.same _ m.2) ih

theorem RespelledItems.refl (p : Part) (items : List Json) : RespelledItems p items items := by
  induction items with
  | nil => exact .nil p
  | cons j items ih => exact .cons (.same _ j) ih

theorem Respelled.of_array {items : List Json} (h : Respelled (.many p) (.array items) j) :
    ∃ items', j = .array items' ∧ RespelledItems p items items' := by
  cases h with
  | same => exact ⟨items, rfl, .refl p items⟩
  | array h => exact ⟨_, rfl, h⟩

/-- The second members are the first, some of them left out, together with others that are not
known, in any order. -/
def Spells (fields : List Field) (known : List String) (members members' : List (String × Json)) :
    Prop :=
  ∃ kept added, RespelledMembers fields members kept ∧ (∀ m ∈ added, m.1 ∉ known) ∧
    members'.Perm (kept ++ added)

theorem Respelled.of_object {members : List (String × Json)}
    (h : Respelled (.one p) (.object members) j) :
    ∃ members', j = .object members' ∧
      Spells (p.fields members) (p.known members) members members' := by
  cases h with
  | same =>
    refine ⟨members, rfl, members, [], .refl _ members, List.forall_mem_nil _, ?_⟩
    rw [List.append_nil]
  | object hk ha hp => exact ⟨_, rfl, _, _, hk, fun m hm => (ha m hm).1, hp⟩

theorem name_mem_of_respelled {fields : List Field} {members kept : List (String × Json)}
    (h : RespelledMembers fields members kept) : ∀ m ∈ kept, m.1 ∈ members.map Prod.fst := by
  induction members generalizing kept with
  | nil =>
    cases h
    exact nofun
  | cons m members ih =>
    cases h with
    | keep _ hs =>
      exact List.forall_mem_cons.mpr
        ⟨List.mem_cons_self, fun m hm => List.mem_cons_of_mem _ (ih hs m hm)⟩
    | drop _ hs => exact fun m hm => List.mem_cons_of_mem _ (ih hs m hm)

/-- In a spelling of a tagged object the tag may stand anywhere; what stands beside it spells what
stood beside it. -/
theorem Respelled.of_tagged {tag name : String} {fields : String → List Field}
    {beside : List (String × Json)}
    (hp : ∀ members, p.fields members = taggedFields tag fields members)
    (hf : ∀ f ∈ fields name, f.name ≠ tag) (hb : ∀ m ∈ beside, m.1 ≠ tag)
    (h : Respelled (.one p) (.object ((tag, .text name) :: beside)) j) :
    ∃ before after, j = .object (before ++ (tag, .text name) :: after) ∧
      (∀ m ∈ before ++ after, m.1 ≠ tag) ∧
      Spells (⟨tag, none, .plain⟩ :: fields name) ((fields name).map Field.name) beside
        (before ++ after) := by
  have hfields : p.fields ((tag, .text name) :: beside) = ⟨tag, none, .plain⟩ :: fields name := by
    rw [hp, taggedFields, List.lookup_cons_self]
  obtain ⟨members, rfl, kept, added, hkept, hadded, hperm⟩ := h.of_object
  rw [Part.known, hfields] at hadded
  rw [hfields] at hkept
  have hnew : ∀ m ∈ added, m.1 ≠ tag ∧ m.1 ∉ (fields name).map Field.name := fun m hm =>
    not_or.mp (List.mem_cons.not.mp (hadded m hm))
  cases hkept with
  | drop hm =>
    rcases List.mem_cons.mp hm with h | hm
    · cases h
    · exact absurd rfl (hf _ hm)
  | @keep _ _ _ j' _ kept hr hs =>
    obtain rfl : j' = .text name := Respelled.of_plain (by simpa [contentOf] using hr)
    have hmem := hperm.mem_iff.mpr (List.mem_append_left added List.mem_cons_self)
    obtain ⟨before, after, rfl⟩ := List.append_of_mem hmem
    have hrest : (before ++ after).Perm (kept ++ added) :=
      List.perm_cons _ |>.mp (List.perm_middle.symm.trans hperm)
    refine ⟨before, after, rfl, fun m hm => ?_, kept, added, hs, fun m hm => (hnew m hm).2, hrest⟩
    rcases List.mem_append.mp (hrest.mem_iff.mp hm) with hm | hm
    · obtain ⟨m', hm', he⟩ := List.mem_map.mp (name_mem_of_respelled hs m hm)
      exact he ▸ hb m' hm'
    · exact (hnew m hm).1

theorem Respelled.eq_null (h : Respelled c .null j) : j = .null := by
  cases h with
  | same => rfl

theorem Respelled.ne_null (h : Respelled c j j') (hj : j ≠ .null) : j' ≠ .null := by
  cases h with
  | same => exact hj
  | array | object => exact nofun

/-- What holds of each spelling of an item holds of the items of an array. -/
theorem RespelledItems.forall₂ {α : Type} {tree : α → Json} {as : List α} {items : List Json}
    (h : RespelledItems p (as.map tree) items) {R : Json → α → Prop}
    (hR : ∀ a ∈ as, ∀ j ∈ items, Respelled (.one p) (tree a) j → R j a) :
    List.Forall₂ R items as := by
  induction as generalizing items with
  | nil =>
    cases h
    exact .nil
  | cons a as ih =>
    cases h with
    | cons h hs =>
      refine .cons (hR a List.mem_cons_self _ List.mem_cons_self h) (ih hs fun b hb j hj => ?_)
      exact hR b (List.mem_cons_of_mem a hb) j (List.mem_cons_of_mem _ hj)

theorem Plain.depth_eq_zero (h : Plain j) : j.depth = 0 := by
  cases h <;> rfl

mutual

/-- A spelling nests no deeper. -/
theorem Respelled.depth_le {c : Content} {j j' : Json} (h : Respelled c j j') :
    j'.depth ≤ j.depth := by
  match h with
  | .same c j => exact Nat.le_refl _
  | .array h => exact Nat.succ_le_succ h.depth_le
  | @Respelled.object p members kept added members' hk ha hp =>
    refine Nat.succ_le_succ (depthOfMembers_le.mpr fun m hm => ?_)
    rcases List.mem_append.mp (hp.mem_iff.mp hm) with hm | hm
    · exact depthOfMembers_le.mp hk.depth_le m hm
    · exact (ha m hm).2.depth_eq_zero ▸ Nat.zero_le _

theorem RespelledItems.depth_le {p : Part} {js js' : List Json} (h : RespelledItems p js js') :
    depthOfItems js' ≤ depthOfItems js := by
  match h with
  | .nil p => exact Nat.le_refl _
  | .cons h hs => exact Nat.max_le.mpr ⟨Nat.le_trans h.depth_le (Nat.le_max_left _ _),
      Nat.le_trans hs.depth_le (Nat.le_max_right _ _)⟩

theorem RespelledMembers.depth_le {fields : List Field} {ms ms' : List (String × Json)}
    (h : RespelledMembers fields ms ms') : depthOfMembers ms' ≤ depthOfMembers ms := by
  match h with
  | .nil fields => exact Nat.le_refl _
  | .keep h hs => exact Nat.max_le.mpr ⟨Nat.le_trans h.depth_le (Nat.le_max_left _ _),
      Nat.le_trans hs.depth_le (Nat.le_max_right _ _)⟩
  | .drop _ hs => exact Nat.le_trans hs.depth_le (Nat.le_max_right _ _)

end

end Json
end SubscriberContract
