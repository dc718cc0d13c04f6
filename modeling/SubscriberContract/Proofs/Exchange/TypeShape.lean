import SubscriberContract.Exchange.TypeShape
import SubscriberContract.Proofs.Exchange.Respelling
import SubscriberContract.Proofs.Model.ModuleId
import SubscriberContract.Proofs.Model.TypeShape

/-!
# Types in unit files, written and read

Only error types hold module identities, and these are the only part of a type that may fail to be
read back. A union type is read from kept trees; its members stand two levels inside it, so each
level of reading is left with the members of one level less.
-/

namespace SubscriberContract

open Json (FromTree Format Tagged Members Respelled Spells)

/-! ## Module identities -/

theorem ModuleId.parse_eq_ok_iff {t : String} {m : ModuleId} :
    ModuleId.parse t = .ok m ↔ m.WellFormed ∧ t = m.print := by
  rw [← parse?_eq_some_iff, ModuleId.parse]
  split
  · next h => simp [h]
  · next h => simp [h]

theorem ModuleId.faithful : ModuleId.format.Faithful ModuleId.WellFormed 0 :=
  .parsed (fun _ hm => parse_eq_ok_iff.mpr ⟨hm, rfl⟩) fun _ _ h => (parse_eq_ok_iff.mp h).1

namespace TypeShape

mutual

/-- The module identities inside a type. -/
def moduleIds : TypeShape → List ModuleId
  | .union members => moduleIdsOf members
  | .error origin _ => origin.toList
  | _ => []

def moduleIdsOf : List TypeShape → List ModuleId
  | [] => []
  | t :: ts => t.moduleIds ++ moduleIdsOf ts

end

theorem moduleIdsOf_eq_flatMap (ts : List TypeShape) : moduleIdsOf ts = ts.flatMap moduleIds := by
  induction ts with
  | nil => rfl
  | cons t ts ih => rw [moduleIdsOf, ih, List.flatMap_cons]

theorem trees_eq_map (ts : List TypeShape) : trees ts = ts.map tree := by
  induction ts with
  | nil => rfl
  | cons t ts ih => rw [trees, ih, List.map_cons]

/-- Every module identity inside the type can be read back. -/
def Printable (t : TypeShape) : Prop := ∀ m ∈ t.moduleIds, m.WellFormed

theorem printable_of_eq_nil {t : TypeShape} (h : t.moduleIds = []) : t.Printable := by
  rw [Printable, h]
  exact List.forall_mem_nil _

theorem printable_union {ts : List TypeShape} :
    (union ts).Printable ↔ ∀ t ∈ ts, t.Printable := by
  unfold Printable
  rw [moduleIds, moduleIdsOf_eq_flatMap]
  constructor
  · exact fun h t ht m hm => h m (List.mem_flatMap_of_mem ht hm)
  · intro h m hm
    obtain ⟨t, ht, hm⟩ := List.mem_flatMap.mp hm
    exact h t ht m hm

/-! ## The parts of a tree -/

/-- The variant's name. -/
def kind : TypeShape → String
  | .reference .. => "reference"
  | .union _ => "union"
  | .error .. => "error"
  | .nil => "nil"
  | .other _ => "other"

/-- What stands beside the tag. -/
def beside : TypeShape → List (String × Json)
  | .reference origin name => [("module", origin.elim .null .text), ("name", .text name)]
  | .union members => [("members", .array (members.map tree))]
  | .error origin signature =>
    [("module", origin.elim .null fun m => .text m.print), ("signature", .text signature)]
  | .nil => []
  | .other signature => [("signature", .text signature)]

/-- The alternatives directly inside a union. -/
def members : TypeShape → List TypeShape
  | .union ts => ts
  | _ => []

theorem tree_eq (t : TypeShape) : t.tree = .object (("kind", .text t.kind) :: t.beside) := by
  cases t with
  | union ts => rw [tree, trees_eq_map]; rfl
  | _ => rfl

theorem variant_kind (t : TypeShape) (build : String → FromTree TypeShape) :
    (tagged build).variant t.kind = .ok t.kind := by
  cases t <;> rfl

theorem beside_ne_tag (t : TypeShape) : ∀ p ∈ t.beside, p.1 ≠ "kind" := by
  cases t <;> simp [beside]

/-- A property of types follows where it may be used for the alternatives directly inside. -/
theorem inductionOnMembers {P : TypeShape → Prop} (h : ∀ t, (∀ u ∈ t.members, P u) → P t)
    (t : TypeShape) : P t := by
  induction t with
  | union ts ih => exact h _ ih
  | reference | error | nil | other => exact h _ nofun

theorem Printable.of_mem_members {t u : TypeShape} (h : t.Printable) (hu : u ∈ t.members) :
    u.Printable := by
  cases t with
  | union ts => exact printable_union.mp h u hu
  | _ => cases hu

theorem written_tree (t : TypeShape) : Json.Written .exact t.tree t.tree.chars := by
  induction t using inductionOnMembers with
  | h t ih =>
    rw [tree_eq]
    refine Json.written_object (List.forall_mem_cons.mpr ⟨Json.written_text t.kind, ?_⟩)
    cases t with
    | union ts =>
      refine List.forall_mem_singleton.mpr (Json.written_array fun j hj => ?_)
      obtain ⟨u, hu, rfl⟩ := List.mem_map.mp hj
      exact ih u hu
    | reference origin name =>
      refine List.forall_mem_cons.mpr ⟨?_, List.forall_mem_singleton.mpr (Json.written_text name)⟩
      cases origin with
      | none => exact .null
      | some o => exact Json.written_text o
    | error origin signature =>
      refine List.forall_mem_cons.mpr
        ⟨?_, List.forall_mem_singleton.mpr (Json.written_text signature)⟩
      cases origin with
      | none => exact .null
      | some m => exact Json.written_text m.print
    | nil => exact nofun
    | other signature => exact List.forall_mem_singleton.mpr (Json.written_text signature)

/-! ## What is written is read, in every spelling -/

/-- The members that belong to the variant, as its object knows them. -/
def fields (t : TypeShape) : List Field := ⟨"kind", none, .plain⟩ :: fieldsBeside t.kind

theorem fieldsBeside_ne_tag (t : TypeShape) : ∀ f ∈ fieldsBeside t.kind, f.name ≠ "kind" := by
  cases t <;> simp [fieldsBeside, kind]

theorem text_respelled {t : String} {j : Json} (h : Respelled .plain (.text t) j) :
    textFromTree j = .ok t := by
  obtain rfl := h.of_plain
  rfl

theorem origin_respelled {α : Type} {read : FromTree α} (print : α → String) {origin : Option α}
    (h : ∀ a ∈ origin, read (.text (print a)) = .ok a) {j : Json}
    (hj : Respelled .plain (origin.elim .null fun a => .text (print a)) j) :
    optionFromTree read j = .ok origin := by
  obtain rfl := hj.of_plain
  cases origin with
  | none => rfl
  | some a =>
    show (read (.text (print a))).map some = _
    rw [h a rfl]
    rfl

/-- A member that holds null stands for nothing. -/
theorem origin_eq_none {α : Type} (print : α → String) {origin : Option α}
    (h : (origin.elim .null fun a => .text (print a)) = Json.null) : origin = none := by
  cases origin with
  | none => rfl
  | some a => cases h

theorem build_respelled {member : FromTree TypeShape} {t : TypeShape} {n : Nat}
    (hm : ∀ u ∈ t.members, ∀ j, Respelled (.one .type) u.tree j → j.depth + 1 ≤ n →
      member j = .ok u)
    (ht : t.Printable) {members : List (String × Json)}
    (hs : Spells t.fields ((fieldsBeside t.kind).map Field.name) t.beside members)
    (hd : ∀ m ∈ members, m.2.depth ≤ n) : build member t.kind (.object members) = .ok t := by
  cases t with
  | reference origin name =>
    exact Members.Spelt.build hs hd
      (.defaulted (fun j hj _ => origin_respelled id (fun _ _ => rfl) hj) (origin_eq_none id)
        (by simp [fields, fieldsBeside, kind]) (by decide) <|
      .required (fun j hj _ => text_respelled hj) (by simp [fields, fieldsBeside, kind]) nofun
        .done) rfl
  | union ts =>
    refine Members.Spelt.build hs hd
      (.required (fun j hj hdj => ?_) (by simp [fields, fieldsBeside, kind]) nofun .done) rfl
    obtain ⟨items, rfl, hitems⟩ := hj.of_array
    obtain ⟨n, rfl, hdepths⟩ := Json.room_of_depth_array hdj
    exact mapM_eq_ok_iff.mpr (hitems.forall₂ fun u hu j hj hr =>
      hm u hu j hr (Nat.succ_le_succ (hdepths j hj)))
  | error origin signature =>
    have hparse : ∀ m ∈ origin, ModuleId.fromTree (.text m.print) = .ok m := fun m hm =>
      ModuleId.parse_eq_ok_iff.mpr ⟨ht m (Option.mem_toList.mpr hm), rfl⟩
    exact Members.Spelt.build hs hd
      (.defaulted (fun j hj _ => origin_respelled _ hparse hj) (origin_eq_none _)
        (by simp [fields, fieldsBeside, kind]) (by decide) <|
      .required (fun j hj _ => text_respelled hj) (by simp [fields, fieldsBeside, kind]) nofun
        .done) rfl
  | nil => rfl
  | other signature =>
    exact Members.Spelt.build hs hd
      (.required (fun j hj _ => text_respelled hj) (by simp [fields, fieldsBeside, kind]) nofun
        .done) rfl

theorem fromTree_respelled {t : TypeShape} (ht : t.Printable) {j : Json}
    (hj : Respelled (.one .type) t.tree j) {levels : Nat} (hd : j.depth ≤ levels) :
    fromTree levels j = .ok t := by
  induction t using inductionOnMembers generalizing j levels with
  | h t ih =>
    rw [tree_eq] at hj
    obtain ⟨before, after, rfl, hne, hspells⟩ :=
      hj.of_tagged (fun _ => rfl) t.fieldsBeside_ne_tag t.beside_ne_tag
    obtain ⟨levels, rfl, hdepths⟩ := Json.room_of_depth_object hd
    refine bind_eq_ok_iff.mpr ⟨_, Tagged.split_object (variant_kind t _) hne, ?_⟩
    refine build_respelled (n := levels) (fun u hu j hj hd => ?_) ht hspells fun m hm => ?_
    · exact ih u hu (ht.of_mem_members hu) hj (Nat.le_of_succ_le hd)
    · exact hdepths m (((List.sublist_cons_self _ after).append_left before).subset hm)

theorem lenient : format.Lenient (.one .type) Printable := by
  refine .tagged (fun _ => rfl) tree_eq (fun t => variant_kind t _) fieldsBeside_ne_tag
    beside_ne_tag fun t members ht hspells => ?_
  have hdepths := Json.depthOfMembers_le.mp (Nat.le_refl (Json.depthOfMembers members))
  refine build_respelled (fun u hu j hj hd => ?_) ht hspells hdepths
  refine fromTree_respelled (ht.of_mem_members hu) hj ?_
  rw [Json.depth]
  omega

/-! ## What is read can be written -/

/-- The type can be read back from a text of at most this depth. -/
def Lands (n : Nat) (t : TypeShape) : Prop := t.Printable ∧ t.tree.depth ≤ n

theorem lands_of_depth_eq_one {t : TypeShape} (ht : t.Printable) (hd : t.tree.depth = 1) {n : Nat}
    (hn : 1 ≤ n) : Lands n t := ⟨ht, hd ▸ hn⟩

theorem lands_union {member : FromTree TypeShape}
    (hm : ∀ {j u n}, j.depth ≤ n → member j = .ok u → Lands n u) {j : Json} {ts : List TypeShape}
    {n : Nat} (hd : j.depth ≤ n) (h : listFromTree member j = .ok ts) :
    Lands (n + 1) (union ts) := by
  match j with
  | .array items =>
    obtain ⟨n, rfl, hdepths⟩ := Json.room_of_depth_array hd
    have hts : ∀ u ∈ ts, Lands n u := by
      intro u hu
      obtain ⟨j, hj, hju⟩ := exists_of_mem_mapM h hu
      exact hm (hdepths j hj) hju
    refine ⟨printable_union.mpr fun u hu => (hts u hu).1, ?_⟩
    rw [tree_eq]
    refine Json.depth_object_le.mpr (List.forall_mem_cons.mpr ⟨Nat.zero_le _, ?_⟩)
    refine List.forall_mem_singleton.mpr (Json.depth_array_le.mpr fun j hj => ?_)
    obtain ⟨u, hu, rfl⟩ := List.mem_map.mp hj
    exact (hts u hu).2
  | .null | .boolean _ | .number _ | .text _ | .object _ => cases h

theorem wellFormed_of_optionFromTree {j : Json} {origin : Option ModuleId}
    (h : optionFromTree ModuleId.fromTree j = .ok origin) : ∀ m ∈ origin, m.WellFormed := by
  intro m hm
  unfold optionFromTree at h
  split at h
  · cases h
    cases hm
  · obtain ⟨m', hm', rfl⟩ := map_eq_ok_iff.mp h
    obtain ⟨t, -, hparse⟩ := bind_eq_ok_iff.mp hm'
    obtain rfl := Option.some.inj hm
    exact (ModuleId.parse_eq_ok_iff.mp hparse).1

theorem build_lands {member : FromTree TypeShape}
    (hm : ∀ {j u n}, j.depth ≤ n → member j = .ok u → Lands n u) {variant : String} {j : Json}
    {t : TypeShape} {n : Nat} (hleast : 1 ≤ j.depth) (hmost : j.depth ≤ n)
    (h : build member variant j = .ok t) : Lands n t := by
  obtain ⟨n, rfl⟩ : ∃ m, n = m + 1 := ⟨n - 1, by omega⟩
  unfold build at h
  split at h
  · obtain ⟨⟨origin, name, ⟨⟩⟩, -, h⟩ := bind_eq_ok_iff.mp h
    cases h
    refine lands_of_depth_eq_one (printable_of_eq_nil rfl) ?_ (by omega)
    cases origin <;> rfl
  · obtain ⟨⟨ts, ⟨⟩⟩, hts, h⟩ := bind_eq_ok_iff.mp h
    cases h
    obtain ⟨⟨j', hj', hlist⟩ | habsent | hshort, -⟩ := Members.ofTree_each hmost hts
    · exact lands_union hm hj' hlist
    · cases habsent
    · cases hshort
  · obtain ⟨⟨origin, signature, ⟨⟩⟩, ho, h⟩ := bind_eq_ok_iff.mp h
    cases h
    have horigin : ∀ m ∈ origin, m.WellFormed := by
      obtain ⟨⟨j', -, hj'⟩ | habsent | hshort, -⟩ := Members.ofTree_each hmost ho
      · exact wellFormed_of_optionFromTree hj'
      · obtain rfl := Option.some.inj habsent
        exact nofun
      · obtain rfl := Option.some.inj hshort
        exact nofun
    refine lands_of_depth_eq_one (fun m hm => ?_) ?_ (by omega)
    · exact horigin m (Option.mem_toList.mp hm)
    · cases origin <;> rfl
  · split at h
    · cases h
    · cases h
      exact lands_of_depth_eq_one (printable_of_eq_nil rfl) rfl (by omega)
  · obtain ⟨⟨signature, ⟨⟩⟩, -, h⟩ := bind_eq_ok_iff.mp h
    cases h
    exact lands_of_depth_eq_one (printable_of_eq_nil rfl) rfl (by omega)

theorem fromTree_lands {levels : Nat} {j : Json} {t : TypeShape} {n : Nat} (hd : j.depth ≤ n)
    (h : fromTree levels j = .ok t) : Lands n t := by
  induction levels generalizing j t n with
  | zero => cases h
  | succ levels ih =>
    obtain ⟨⟨variant, beside⟩, hsplit, h⟩ := bind_eq_ok_iff.mp h
    obtain ⟨hleast, hmost⟩ := Tagged.depth_of_split hsplit
    exact build_lands ih hleast (Nat.le_trans hmost hd) h

/-! ## The format -/

theorem faithful : format.Faithful Printable 0 where
  written := written_tree
  takes := fun ht hd => lenient ht (.same _ _) hd
  blank := fun room _ hw => Tagged.format_blank _ room hw
  misses := fun {_ t} _ hd =>
    Tagged.format_misses (tree_eq t) (variant_kind t _) t.beside_ne_tag hd
  lands := by
    intro room _ s t s' hs
    obtain ⟨variant, beside, hleast, hmost, hbuild⟩ := Tagged.format_gives _ room hs
    exact build_lands fromTree_lands hleast hmost hbuild

end TypeShape
end SubscriberContract
