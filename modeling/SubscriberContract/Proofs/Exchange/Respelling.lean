import SubscriberContract.Proofs.Exchange.Spelling
import SubscriberContract.Proofs.Json.Presented
import SubscriberContract.Proofs.Json.Records
import SubscriberContract.Proofs.Json.Tagged

/-!
# Formats that do not mind the spelling

A lenient format takes every spelling of a value's tree for that value. For a record this is so
if the formats of its members are lenient and if each value whose member may be left out is the one
that stands for an absent member: then every spelling of the object presents the values.
-/

namespace SubscriberContract

open Json (Format Members Respelled RespelledMembers Spells Tagged Takes)

variable {α σ ρ : Type} {fields : List Field} {c : Content} {p : Part}

/-! ## Members -/

namespace Json.Members

variable {F : Type → Type} {P : ∀ ⦃α : Type⦄, String → F α → Json → α → Prop} {n : Nat}

/-- The members hold the values in declaration order, and go on doing so in every spelling of at
most this depth; those that may be left out stand for an absent one. -/
def Spelt (P : ∀ ⦃α : Type⦄, String → F α → Json → α → Prop) (fields : List Field) (n : Nat)
    {σ ρ : Type} : Members F σ ρ → σ → List (String × Json) → Prop
  | .done, (), members => members = []
  | .member name format absent _ rest, (a, values), members =>
    ∃ j others, members = (name, j) :: others ∧
      (∀ j', Respelled (contentOf fields name) j j' → j'.depth ≤ n → P name format j' a) ∧
      (∀ c, ⟨name, some j, c⟩ ∈ fields → absent = some a) ∧ name ∉ rest.names ∧
      rest.Spelt P fields n values others

section

variable {α : Type} {name : String} {format : F α} {rest : Members F σ ρ} {a : α} {values : σ}
  {j : Json} {others : List (String × Json)}

theorem Spelt.done : Members.done.Spelt P fields n () [] := rfl

theorem Spelt.required
    (h : ∀ j', Respelled (contentOf fields name) j j' → j'.depth ≤ n → P name format j' a)
    (hdrop : ∀ f ∈ fields, f.name = name → f.omissible = none) (hname : name ∉ rest.names)
    (hrest : rest.Spelt P fields n values others) :
    (Members.required name format rest).Spelt P fields n (a, values) ((name, j) :: others) := by
  refine ⟨j, others, rfl, h, fun c hm => ?_, hname, hrest⟩
  cases hdrop _ hm rfl

theorem Spelt.defaulted {value : α} {left : Json}
    (h : ∀ j', Respelled (contentOf fields name) j j' → j'.depth ≤ n → P name format j' a)
    (hvalue : j = left → a = value)
    (hdrop : ∀ f ∈ fields, f.name = name → f.omissible = some left) (hname : name ∉ rest.names)
    (hrest : rest.Spelt P fields n values others) :
    (Members.defaulted name format value rest).Spelt P fields n (a, values)
      ((name, j) :: others) := by
  refine ⟨j, others, rfl, h, fun c hm => ?_, hname, hrest⟩
  rw [hvalue (Option.some.inj (hdrop _ hm rfl))]

end

theorem Spelt.name_mem {ms : Members F σ ρ} {v : σ} {members : List (String × Json)}
    (h : ms.Spelt P fields n v members) : ∀ m ∈ members, m.1 ∈ ms.names := by
  induction ms generalizing members with
  | done =>
    obtain rfl := h
    exact nofun
  | member name format absent short rest ih =>
    obtain ⟨j, others, rfl, -, -, -, hothers⟩ := h
    exact List.forall_mem_cons.mpr
      ⟨List.mem_cons_self, fun m hm => List.mem_cons_of_mem name (ih hothers m hm)⟩

/-- What was kept of the members presents the values, whatever was added to it. -/
theorem Spelt.presents_append {ms : Members F σ ρ} {v : σ}
    {members kept added : List (String × Json)} (h : ms.Spelt P fields n v members)
    (hk : RespelledMembers fields members kept) (hd : ∀ m ∈ kept, m.2.depth ≤ n)
    (ha : ∀ m ∈ added, m.1 ∉ ms.names) :
    ms.Presents P v (kept ++ added) := by
  induction ms generalizing members kept with
  | done => trivial
  | member name format absent short rest ih =>
    obtain ⟨j, others, rfl, hj, hdrop, hname, hothers⟩ := h
    have hadded : ∀ m ∈ added, m.1 ≠ name ∧ m.1 ∉ rest.names := fun m hm =>
      not_or.mp (List.mem_cons.not.mp (ha m hm))
    have hne : ∀ kept', RespelledMembers fields others kept' →
        ∀ m ∈ kept' ++ added, m.1 ≠ name := by
      intro kept' hk' m hm
      rcases List.mem_append.mp hm with hm | hm
      · obtain ⟨m', hm', he⟩ := List.mem_map.mp (name_mem_of_respelled hk' m hm)
        rintro rfl
        exact hname (he ▸ hothers.name_mem m' hm')
      · exact (hadded m hm).1
    cases hk with
    | @keep _ _ _ j' _ kept' hr hs =>
      obtain ⟨hdj, hdkept⟩ := List.forall_mem_cons.mp hd
      rw [List.cons_append, Presents, valuesOf_cons_self, besides_cons_self,
        valuesOf_eq_nil (hne kept' hs), besides_eq_self (hne kept' hs)]
      exact ⟨.given (hj j' hr hdj), ih hothers hs hdkept fun m hm => (hadded m hm).2⟩
    | drop hm hs =>
      rw [Presents, valuesOf_eq_nil (hne kept hs), besides_eq_self (hne kept hs)]
      exact ⟨.absent (hdrop _ hm), ih hothers hs hd fun m hm => (hadded m hm).2⟩

/-- Members that spell those of the values present the values. -/
theorem Spelt.presents {ms : Members F σ ρ} {v : σ} {members members' : List (String × Json)}
    (h : ms.Spelt P fields n v members) (hs : Spells fields ms.names members members')
    (hd : ∀ m ∈ members', m.2.depth ≤ n) : ms.Presents P v members' := by
  obtain ⟨kept, added, hkept, hadded, hperm⟩ := hs
  refine (h.presents_append hkept (fun m hm => ?_) hadded).perm hperm
  exact hd m (hperm.mem_iff.mpr (List.mem_append_left added hm))

/-- A value built from a record is read from the objects that spell the record. -/
theorem Spelt.build {ms : Members FromTree σ ρ} {title : String} {v : σ}
    {members members' : List (String × Json)} {build : σ → Except Mismatch α} {a : α}
    (hs : Spells fields ms.names members members') (hd : ∀ m ∈ members', m.2.depth ≤ n)
    (h : ms.Spelt (fun _ _ read j a => read j = .ok a) fields n v members)
    (hbuild : build v = .ok a) : (ms.ofTree title (.object members') >>= build) = .ok a :=
  bind_eq_ok_iff.mpr ⟨v, ofTree_object_iff.mpr (h.presents hs hd), hbuild⟩

end Json.Members

/-! ## Formats -/

namespace Json

/-- The format takes every spelling of a good value's tree that fits into the room. -/
def Format.Lenient (f : Format α) (c : Content) (good : α → Prop) : Prop :=
  ∀ ⦃room a j⦄, good a → Respelled c (f.tree a) j → j.depth ≤ room → Takes (f.read room) j a

variable {f : Format α} {good : α → Prop}

theorem Format.Lenient.congr (h : f.Lenient c good) {good' : α → Prop}
    (hg : ∀ a, good' a → good a) : f.Lenient c good' :=
  fun _ a _ ha => h (hg a ha)

theorem Format.Faithful.lenient {least : Nat} (h : f.Faithful good least) :
    f.Lenient .plain good := by
  intro room a j ha hj hd
  obtain rfl := hj.of_plain
  exact h.takes ha hd

theorem Format.Lenient.optional (h : f.Lenient c good) (hnull : ∀ a, f.tree a ≠ .null) :
    (Format.optional f).Lenient c fun o => ∀ a ∈ o, good a := by
  intro room o j ho hj hd
  cases o with
  | none =>
    obtain rfl := hj.eq_null
    exact optional_takes_null f room
  | some a => exact optional_takes_some (h (ho a rfl) hj hd) (hj.ne_null (hnull a))

theorem Format.Lenient.list (h : f.Lenient (.one p) good) :
    (Format.list f).Lenient (.many p) fun as => ∀ a ∈ as, good a := by
  intro room as j has hj hd
  obtain ⟨items, rfl, hitems⟩ := hj.of_array
  obtain ⟨room, rfl, hdepths⟩ := room_of_depth_array hd
  exact list_takes (hitems.forall₂ fun a ha j hj hr => h (has a ha) hr (hdepths j hj))

/-! ## Records -/

/-- The members of a record hold good values in every spelling. -/
def Members.Lenient (ms : Members Format σ ρ) (fields : List Field) (good : σ → Prop) : Prop :=
  ∀ ⦃room v⦄, good v →
    ms.Spelt (fun _ _ f j a => Takes (f.read room) j a) fields room v (ms.trees v)

namespace Members.Lenient

variable {name : String} {format : Format α} {rest : Members Format σ ρ} {goodRest : σ → Prop}

theorem done : Members.done.Lenient fields fun _ => True := fun _ _ _ => .done

theorem required (h : format.Lenient (contentOf fields name) good)
    (hdrop : ∀ f ∈ fields, f.name = name → f.omissible = none) (hname : name ∉ rest.names)
    (hrest : rest.Lenient fields goodRest) :
    (Members.required name format rest).Lenient fields fun v => good v.1 ∧ goodRest v.2 :=
  fun _ _ hv => .required (fun _ hj hd => h hv.1 hj hd) hdrop hname (hrest hv.2)

theorem defaulted {value : α} {left : Json} (h : format.Lenient (contentOf fields name) good)
    (hvalue : ∀ a, format.tree a = left → a = value)
    (hdrop : ∀ f ∈ fields, f.name = name → f.omissible = some left) (hname : name ∉ rest.names)
    (hrest : rest.Lenient fields goodRest) :
    (Members.defaulted name format value rest).Lenient fields fun v => good v.1 ∧ goodRest v.2 :=
  fun _ v hv => .defaulted (fun _ hj hd => h hv.1 hj hd) (hvalue v.1) hdrop hname (hrest hv.2)

end Members.Lenient

variable {title : String} {ms : Members Format σ ρ} {build : σ → α} {values : α → σ}

theorem Format.Lenient.record (p : Part) {good : σ → Prop} (h : ms.Lenient (p.fields []) good)
    (hfields : ∀ members, p.fields members = p.fields []) (hknown : p.known [] = ms.names)
    (hbuild : ∀ a, build (values a) = a) :
    (Format.record title ms build values).Lenient (.one p) fun a => good (values a) := by
  intro room a j ha hj hd
  obtain ⟨members, rfl, hspells⟩ := hj.of_object
  obtain ⟨room, rfl, hdepths⟩ := room_of_depth_object hd
  rw [Part.known, hfields] at hspells
  rw [← Part.known, hknown] at hspells
  obtain ⟨read, hsteps, hcomplete⟩ := ((h ha).presents hspells hdepths).steps
  have htakes : Takes ((Format.record title ms build values).read (room + 1)) _
      (build (values a)) := record_takes hsteps hcomplete
  rwa [hbuild] at htakes

/-! ## Tagged unions -/

theorem Format.Lenient.tagged {u : Tagged α} {tree : α → Json} {kind : α → String}
    {beside : α → List (String × Json)} {fieldsBeside : String → List Field}
    (hp : ∀ members, p.fields members = taggedFields u.tag fieldsBeside members)
    (htree : ∀ a, tree a = .object ((u.tag, .text (kind a)) :: beside a))
    (hvariant : ∀ a, u.variant (kind a) = .ok (kind a))
    (hfields : ∀ a, ∀ f ∈ fieldsBeside (kind a), f.name ≠ u.tag)
    (hbeside : ∀ a, ∀ m ∈ beside a, m.1 ≠ u.tag)
    (hbuild : ∀ ⦃a members⦄, good a →
      Spells (⟨u.tag, none, .plain⟩ :: fieldsBeside (kind a))
        ((fieldsBeside (kind a)).map Field.name) (beside a) members →
      u.build (kind a) (.object members) = .ok a) : (u.format tree).Lenient (.one p) good := by
  intro room a j ha hj hd
  replace hj : Respelled (.one p) (tree a) j := hj
  rw [htree] at hj
  obtain ⟨before, after, rfl, hne, hspells⟩ := hj.of_tagged hp (hfields a) (hbeside a)
  exact Tagged.format_takes tree (hvariant a) hne (hbuild ha hspells) hd

/-! ## Values that stand for a member left out -/

theorem eq_none_of_tree {item : Format α} (hnull : ∀ a, item.tree a ≠ .null) (o : Option α)
    (h : (Format.optional item).tree o = .null) : o = none := by
  cases o with
  | none => rfl
  | some a => exact absurd h (hnull a)

theorem eq_nil_of_tree {item : Format α} (as : List α)
    (h : (Format.list item).tree as = .array []) : as = [] :=
  List.map_eq_nil_iff.mp (Json.array.inj h)

end Json
end SubscriberContract
