import SubscriberContract.Proofs.Exchange.CompilationUnit
import SubscriberContract.Proofs.Json.KeepingFormats

/-!
# Members that stand twice

A wary format is not read from a text in which an object has a member twice that it knows, wherever
that object stands. All that a text is asked for is the grammar, so this also covers members whose
values do not fit.
-/

namespace SubscriberContract

open Json

/-! ## Trees that are alike -/

namespace Json

variable {c : Content} {p : Part} {fields : List Field} {j j' : Json}
  {members members' : List (String × Json)}

theorem AlikeMembers.names_eq (h : AlikeMembers members members') :
    members'.map Prod.fst = members.map Prod.fst := by
  induction members generalizing members' with
  | nil =>
    cases h
    rfl
  | cons m members ih =>
    cases h with
    | cons _ hs => rw [List.map_cons, List.map_cons, ih hs]

theorem AlikeMembers.exists_of_mem (h : AlikeMembers members members') {m : String × Json}
    (hm : m ∈ members) : ∃ m' ∈ members', m'.1 = m.1 ∧ Alike m.2 m'.2 := by
  induction members generalizing members' with
  | nil => cases hm
  | cons _ members ih =>
    cases h with
    | cons h hs =>
      rcases List.mem_cons.mp hm with rfl | hm
      · exact ⟨_, List.mem_cons_self, rfl, h⟩
      · obtain ⟨m', hm', hmm'⟩ := ih hs hm
        exact ⟨m', List.mem_cons_of_mem _ hm', hmm'⟩

theorem AlikeItems.exists_of_mem {items items' : List Json} (h : AlikeItems items items')
    (hj : j ∈ items) : ∃ j' ∈ items', Alike j j' := by
  induction items generalizing items' with
  | nil => cases hj
  | cons _ items ih =>
    cases h with
    | cons h hs =>
      rcases List.mem_cons.mp hj with rfl | hj
      · exact ⟨_, List.mem_cons_self, h⟩
      · obtain ⟨j', hj', hjj'⟩ := ih hs hj
        exact ⟨j', List.mem_cons_of_mem _ hj', hjj'⟩

theorem AlikeMembers.taggedFields_eq (h : AlikeMembers members members') (tag : String)
    (beside : String → List Field) :
    taggedFields tag beside members' = taggedFields tag beside members := by
  unfold taggedFields
  congr 1
  induction members generalizing members' with
  | nil =>
    cases h
    rfl
  | cons m members ih =>
    cases h with
    | @cons name _ _ _ _ h hs =>
      rw [List.lookup_cons, List.lookup_cons]
      cases tag == name with
      | true => cases h <;> rfl
      | false => exact ih hs

theorem AlikeMembers.fields_eq (h : AlikeMembers members members') (p : Part) :
    p.fields members' = p.fields members := by
  cases p with
  | argument => exact h.taggedFields_eq _ _
  | type => exact h.taggedFields_eq _ _
  | _ => rfl

theorem Repeats.of_alike (h : Repeats c j) (ha : Alike j j') : Repeats c j' := by
  induction h generalizing j' with
  | here hn h =>
    cases ha with
    | object ha =>
      refine .here ?_ (ha.names_eq ▸ h)
      rw [Part.known, ha.fields_eq]
      exact hn
  | member hm _ ih =>
    cases ha with
    | object ha =>
      obtain ⟨m', hm', hname, hmm'⟩ := ha.exists_of_mem hm
      refine .member hm' ?_
      rw [ha.fields_eq, hname]
      exact ih hmm'
  | item hj _ ih =>
    cases ha with
    | array ha =>
      obtain ⟨j', hj', hjj'⟩ := ha.exists_of_mem hj
      exact .item hj' (ih hjj')

/-! ## What an object presents -/

theorem not_repeats_plain : ¬ Repeats .plain j := nofun

theorem contentOf_of_not_mem {name : String} (h : name ∉ fields.map Field.name) :
    contentOf fields name = .plain := by
  rw [contentOf, List.find?_eq_none.mpr]
  · rfl
  · intro f hf hname
    exact h (List.mem_map.mpr ⟨f, hf, of_decide_eq_true hname⟩)

theorem contentOf_cons_eq {f : Field} {name : String} (h : f.name = name) :
    contentOf (f :: fields) name = f.inside := by
  simp [contentOf, h]

theorem contentOf_cons_ne {f : Field} {name : String} (h : f.name ≠ name) :
    contentOf (f :: fields) name = contentOf fields name := by
  simp [contentOf, h]

/-- Among these members none stands twice that is known, and inside them none does. -/
def Single (fields : List Field) (members : List (String × Json)) : Prop :=
  (∀ name ∈ fields.map Field.name, (members.map Prod.fst).count name ≤ 1) ∧
    ∀ m ∈ members, ¬ Repeats (contentOf fields m.1) m.2

theorem Single.not_repeats (h : Single (p.fields members) members) :
    ¬ Repeats (.one p) (.object members) := by
  intro hrepeats
  cases hrepeats with
  | here hn hcount => exact absurd (h.1 _ hn) (Nat.not_le_of_lt hcount)
  | member hm hrepeats => exact h.2 _ hm hrepeats

theorem Members.Presents.single {F : Type → Type} {σ ρ : Type} {ms : Members F σ ρ} {v : σ}
    (h : ms.Presents (fun _ name _ j _ => ¬ Repeats (contentOf fields name) j) v members)
    (hnames : fields.map Field.name = ms.names) : Single fields members := by
  refine ⟨fun name hn => h.count_le (hnames ▸ hn), fun m hm => ?_⟩
  by_cases hn : m.1 ∈ ms.names
  · exact h.forall_mem m hm hn
  · rw [contentOf_of_not_mem (hnames ▸ hn)]
    exact not_repeats_plain

theorem Members.single_of_ofTree {σ ρ : Type} {ms : Members FromTree σ ρ} {title : String} {v : σ}
    (h : ms.ofTree title (.object members) = .ok v) (hnames : fields.map Field.name = ms.names)
    (hms : ms.All fun _ name f => ∀ j a, f j = .ok a → ¬ Repeats (contentOf fields name) j) :
    Single fields members :=
  ((Members.ofTree_object_iff.mp h).imp hms).single hnames

theorem single_nil (members : List (String × Json)) : Single [] members :=
  ⟨nofun, fun _ _ => not_repeats_plain⟩

theorem Single.tagged {tag : String} (h : Single fields (besides tag members))
    (htag : (valuesOf tag members).length ≤ 1) :
    Single (⟨tag, none, .plain⟩ :: fields) members := by
  refine ⟨fun name hn => ?_, fun m hm => ?_⟩
  · by_cases hname : name = tag
    · rw [hname, ← length_valuesOf]
      exact htag
    · rw [← count_besides hname]
      exact h.1 name ((List.mem_cons.mp hn).resolve_left hname)
  · by_cases hname : tag = m.1
    · rw [contentOf_cons_eq hname]
      exact not_repeats_plain
    · rw [contentOf_cons_ne hname]
      exact h.2 m (List.mem_filter.mpr ⟨hm, decide_eq_true (Ne.symm hname)⟩)

/-- A tagged object that is split has its tag once, so only what stands beside it is left to see. -/
theorem Tagged.not_repeats_of_split {α : Type} {u : Tagged α} {beside : String → List Field}
    (hp : ∀ members, p.fields members = taggedFields u.tag beside members) {t : String}
    {rest : Json} (h : u.split j = .ok (t, rest))
    (hrest : ∀ others, rest = .object others → Single (beside t) others) :
    ¬ Repeats (.one p) j := by
  cases j with
  | object members =>
    obtain ⟨⟨t', others⟩, hsplit, h⟩ := bind_eq_ok_iff.mp h
    cases h
    obtain ⟨rfl, j, hvalue, htag⟩ := splitMembers_none_eq_ok hsplit
    have hone : (valuesOf u.tag members).length ≤ 1 := hvalue ▸ Nat.le_refl 1
    refine Single.not_repeats ?_
    rw [hp, taggedFields, lookup_eq_head?, hvalue, List.head?_cons]
    split
    · next x hx =>
      cases hx
      obtain rfl := eq_of_variant htag
      exact (hrest _ rfl).tagged hone
    · exact (single_nil _).tagged hone
  | null | boolean | number | text | array =>
    intro hrepeats
    cases hrepeats

/-! ## Formats -/

/-- The format is not read from a text in which a known member stands twice. -/
def Format.Wary {α : Type} (f : Format α) (c : Content) : Prop :=
  ∀ room, Keeps (f.read room) fun j _ => ¬ Repeats c j

variable {α σ ρ : Type} {f : Format α}

theorem Format.Wary.plain (h : ∀ room, Keeps (f.read room) fun _ _ => True) : f.Wary .plain :=
  fun room => (h room).mono fun _ _ _ => not_repeats_plain

theorem not_repeats_null : ¬ Repeats c .null := nofun

theorem Format.Wary.optional (h : f.Wary c) : (Format.optional f).Wary c :=
  fun room => optional_keeps (h room) not_repeats_null

theorem Format.Wary.list (h : f.Wary (.one p)) : (Format.list f).Wary (.many p) := by
  refine fun room => (list_keeps h room).mono fun j _ hitems hrepeats => ?_
  cases hrepeats with
  | item hj h => exact hitems _ rfl _ hj h

theorem Format.Wary.plain_list (h : f.Wary .plain) : (Format.list f).Wary .plain :=
  .plain fun room => (list_keeps h room).mono fun _ _ _ => trivial

theorem Format.Wary.record (p : Part) {title : String} {ms : Members Format σ ρ} {build : σ → α}
    {values : α → σ} (h : ms.All fun _ name f => f.Wary (contentOf (p.fields []) name))
    (hfields : ∀ members, p.fields members = p.fields []) (hknown : p.known [] = ms.names) :
    (Format.record title ms build values).Wary (.one p) := by
  intro room
  have hms : ∀ room, ms.All fun _ name f =>
      Keeps (f.read room) fun j _ => ¬ Repeats (contentOf (p.fields []) name) j :=
    fun room => h.imp fun _ _ f hf => hf room
  refine (record_keeps (P := fun _ name _ j _ => ¬ Repeats (contentOf (p.fields []) name) j) hms
    title build values room).mono fun j _ hobject hrepeats => ?_
  match j with
  | .object members =>
    obtain ⟨v, hpresents⟩ := hobject members rfl
    have hsingle := hpresents.single hknown
    rw [← hfields members] at hsingle
    exact hsingle.not_repeats hrepeats
  | .null | .boolean _ | .number _ | .text _ | .array _ => cases hrepeats

theorem Format.Wary.tagged {u : Tagged α} {tree : α → Json} {beside : String → List Field}
    (hp : ∀ members, p.fields members = taggedFields u.tag beside members)
    (h : ∀ ⦃t others a⦄, u.build t (.object others) = .ok a → Single (beside t) others) :
    (u.format tree).Wary (.one p) := by
  refine fun room => (Tagged.format_keeps u tree room).mono fun j a hj hrepeats => ?_
  obtain ⟨j', t, rest, halike, hsplit, hbuild⟩ := hj
  refine Tagged.not_repeats_of_split hp hsplit (fun others hrest => ?_) (hrepeats.of_alike halike)
  subst hrest
  exact h hbuild

end Json

/-! ## Types and arguments -/

theorem not_repeats_of_listFromTree {α : Type} {item : FromTree α} {p : Part}
    (h : ∀ j a, item j = .ok a → ¬ Repeats (.one p) j) {j : Json} {as : List α}
    (hj : listFromTree item j = .ok as) : ¬ Repeats (.many p) j := by
  intro hrepeats
  cases hrepeats with
  | item hmem hr =>
    exact forall_mem_of_forall₂ ((mapM_eq_ok_iff.mp hj).imp h) _ hmem hr

namespace TypeShape

theorem single_of_build {member : FromTree TypeShape}
    (hm : ∀ j t, member j = .ok t → ¬ Repeats (.one .type) j) {variant : String}
    {others : List (String × Json)} {t : TypeShape}
    (h : build member variant (.object others) = .ok t) : Single (fieldsBeside variant) others := by
  unfold build at h
  split at h
  · obtain ⟨v, hv, -⟩ := bind_eq_ok_iff.mp h
    exact Members.single_of_ofTree hv rfl
      ⟨fun _ _ _ => not_repeats_plain, fun _ _ _ => not_repeats_plain, trivial⟩
  · obtain ⟨v, hv, -⟩ := bind_eq_ok_iff.mp h
    exact Members.single_of_ofTree hv rfl ⟨fun _ _ hj => not_repeats_of_listFromTree hm hj, trivial⟩
  · obtain ⟨v, hv, -⟩ := bind_eq_ok_iff.mp h
    exact Members.single_of_ofTree hv rfl
      ⟨fun _ _ _ => not_repeats_plain, fun _ _ _ => not_repeats_plain, trivial⟩
  · exact single_nil others
  · next hreference hunion herror hnil =>
    obtain ⟨v, hv, -⟩ := bind_eq_ok_iff.mp h
    unfold fieldsBeside
    split
    · cases hreference rfl
    · cases hunion rfl
    · cases herror rfl
    · exact Members.single_of_ofTree hv rfl ⟨fun _ _ _ => not_repeats_plain, trivial⟩
    · exact single_nil others

theorem not_repeats_of_fromTree {levels : Nat} {j : Json} {t : TypeShape}
    (h : fromTree levels j = .ok t) : ¬ Repeats (.one .type) j := by
  induction levels generalizing j t with
  | zero => cases h
  | succ levels ih =>
    obtain ⟨⟨variant, rest⟩, hsplit, hbuild⟩ := bind_eq_ok_iff.mp h
    refine Tagged.not_repeats_of_split (fun _ => rfl) hsplit fun others hrest => ?_
    subst hrest
    exact single_of_build (fun _ _ => ih) hbuild

theorem wary : format.Wary (.one .type) :=
  .tagged (fun _ => rfl) fun _ _ _ => single_of_build fun _ _ => not_repeats_of_fromTree

end TypeShape

namespace Argument

theorem single_of_build {variant : String} {others : List (String × Json)} {a : Argument}
    (h : build variant (.object others) = .ok a) : Single (fieldsBeside variant) others := by
  unfold build at h
  dsimp only at h
  split at h
  · obtain ⟨v, hv, -⟩ := bind_eq_ok_iff.mp h
    exact Members.single_of_ofTree hv rfl ⟨fun _ _ _ => not_repeats_plain, trivial⟩
  · obtain ⟨v, hv, -⟩ := bind_eq_ok_iff.mp h
    exact Members.single_of_ofTree hv rfl
      ⟨fun _ _ _ => not_repeats_plain, fun _ _ _ => not_repeats_plain, trivial⟩
  · next hpositional hnamed =>
    obtain ⟨v, hv, -⟩ := bind_eq_ok_iff.mp h
    unfold fieldsBeside
    split
    · exact Members.single_of_ofTree hv rfl ⟨fun _ _ _ => not_repeats_plain, trivial⟩
    · exact Members.single_of_ofTree hv rfl ⟨fun _ _ _ => not_repeats_plain, trivial⟩
    · cases hnamed rfl
    · exact single_nil others

theorem wary : format.Wary (.one .argument) := .tagged (fun _ => rfl) fun _ _ _ => single_of_build

end Argument

/-! ## Records -/

theorem word_wary : Format.word.Wary .plain := .plain word_keeps

theorem text_wary : Format.text.Wary .plain := .plain text_keeps

theorem Span.wary : Span.format.Wary (.one .span) :=
  .record .span ⟨word_wary, word_wary, trivial⟩ (fun _ => rfl) rfl

theorem Annotation.wary : Annotation.format.Wary (.one .mark) :=
  .record .mark ⟨text_wary.optional, text_wary.optional, trivial⟩ (fun _ => rfl) rfl

theorem Listener.wary : Listener.format.Wary (.one .listener) :=
  .record .listener ⟨Span.wary, Argument.wary.list.optional, trivial⟩ (fun _ => rfl) rfl

theorem Signature.wary : Signature.format.Wary (.one .signature) :=
  .record .signature ⟨TypeShape.wary.list, TypeShape.wary.optional, trivial⟩ (fun _ => rfl) rfl

theorem Qualifier.wary : Qualifier.format.Wary .plain := .plain fun room => choice_keeps _ _ room

theorem Method.wary : Method.format.Wary (.one .method) :=
  .record .method
    ⟨text_wary, Qualifier.wary.plain_list, Span.wary, Signature.wary.optional, trivial⟩
    (fun _ => rfl) rfl

theorem Service.wary : Service.format.Wary (.one .service) :=
  .record .service ⟨Span.wary, Annotation.wary.list, Method.wary.list, trivial⟩ (fun _ => rfl) rfl

theorem CompilationUnit.wary : CompilationUnit.format.Wary (.one .unit) :=
  .record .unit ⟨text_wary.optional, Listener.wary.list, Service.wary.list, trivial⟩
    (fun _ => rfl) rfl

end SubscriberContract
