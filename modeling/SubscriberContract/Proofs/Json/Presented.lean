import SubscriberContract.Proofs.Json.Members
import SubscriberContract.Proofs.Json.Skipping

/-!
# Objects that present a record

An object presents the values of a record if each member of the record stands in it at most once,
with its value, and is left out only where something stands for an absent one. The order does not
matter, and neither do members that the record does not have. From a text and from a tree these are
the objects from which the values are read: what one member does to the values read so far is
`Puts`, and `exists_runs_iff_presents` says where a run over all members leads.
-/

namespace SubscriberContract.Json

variable {σ : Type}

/-- The values of the members of this name. -/
def valuesOf (name : String) (members : List (String × Json)) : List Json :=
  (members.filter (·.1 = name)).map Prod.snd

/-- The members of other names. -/
def besides (name : String) (members : List (String × Json)) : List (String × Json) :=
  members.filter (·.1 ≠ name)

variable {name key : String} {j : Json} {members : List (String × Json)}

theorem valuesOf_cons_self : valuesOf name ((name, j) :: members) = j :: valuesOf name members := by
  simp [valuesOf]

theorem valuesOf_cons_ne (h : key ≠ name) :
    valuesOf name ((key, j) :: members) = valuesOf name members := by
  simp [valuesOf, h]

theorem besides_cons_self : besides name ((name, j) :: members) = besides name members := by
  simp [besides]

theorem besides_cons_ne (h : key ≠ name) :
    besides name ((key, j) :: members) = (key, j) :: besides name members := by
  simp [besides, h]

theorem valuesOf_eq_nil (h : ∀ m ∈ members, m.1 ≠ name) : valuesOf name members = [] := by
  rw [valuesOf, List.map_eq_nil_iff, List.filter_eq_nil_iff]
  simpa using h

theorem besides_eq_self (h : ∀ m ∈ members, m.1 ≠ name) : besides name members = members := by
  rw [besides, List.filter_eq_self]
  simpa using h

theorem length_valuesOf (name : String) (members : List (String × Json)) :
    (valuesOf name members).length = (members.map Prod.fst).count name := by
  induction members with
  | nil => rfl
  | cons m members ih =>
    by_cases h : m.1 = name
    · obtain ⟨key, j⟩ := m
      obtain rfl : key = name := h
      rw [valuesOf_cons_self, List.length_cons, ih, List.map_cons, List.count_cons_self]
    · rw [valuesOf_cons_ne (j := m.2) h, ih, List.map_cons, List.count_cons_of_ne h]

theorem lookup_eq_head? (name : String) (members : List (String × Json)) :
    members.lookup name = (valuesOf name members).head? := by
  induction members with
  | nil => rfl
  | cons m members ih =>
    obtain ⟨key, j⟩ := m
    by_cases h : key = name
    · subst h
      rw [List.lookup_cons_self, valuesOf_cons_self, List.head?_cons]
    · rw [valuesOf_cons_ne h, ← ih, List.lookup_cons, beq_false_of_ne (Ne.symm h)]

theorem count_besides (h : key ≠ name) :
    ((besides name members).map Prod.fst).count key = (members.map Prod.fst).count key := by
  induction members with
  | nil => rfl
  | cons m members ih =>
    obtain ⟨other, j⟩ := m
    by_cases hn : other = name
    · subst hn
      rw [besides_cons_self, ih, List.map_cons, List.count_cons_of_ne (Ne.symm h)]
    · rw [besides_cons_ne hn, List.map_cons, List.map_cons, List.count_cons, List.count_cons, ih]

/-! ## Runs over members -/

/-- A run over members leads from one state to another. -/
inductive Runs (R : σ → String → Json → σ → Prop) : σ → List (String × Json) → σ → Prop
  | done {a : σ} : Runs R a [] a
  | step {a b c : σ} {name : String} {j : Json} {members : List (String × Json)}
      (h : R a name j b) (hs : Runs R b members c) : Runs R a ((name, j) :: members) c

variable {R : σ → String → Json → σ → Prop} {a b : σ}

theorem Runs.steps {member : String → σ → Reader σ} (h : Runs R a members b)
    (hR : ∀ a name j b, R a name j b → TakesAfterName (member name a) j b) :
    Steps member a members b := by
  induction h with
  | done => exact .done
  | step h _ ih => exact .step (hR _ _ _ _ h) ih

theorem foldlM_eq_ok_iff_runs {step : σ → String × Json → Except Mismatch σ}
    (hR : ∀ a name j b, step a (name, j) = .ok b ↔ R a name j b) :
    members.foldlM step a = .ok b ↔ Runs R a members b := by
  induction members generalizing a with
  | nil =>
    constructor
    · rintro ⟨⟩
      exact .done
    · rintro ⟨⟩
      rfl
  | cons m members ih =>
    rw [List.foldlM_cons, bind_eq_ok_iff]
    constructor
    · rintro ⟨c, hc, h⟩
      exact .step ((hR _ _ _ _).mp hc) (ih.mp h)
    · rintro (_ | ⟨h, hs⟩)
      exact ⟨_, (hR _ _ _ _).mpr h, ih.mpr hs⟩

namespace Members

variable {F : Type → Type} {ρ α : Type} {P : ∀ ⦃α : Type⦄, String → F α → Json → α → Prop}

/-! ## What an object has to hold -/

/-- A value is settled by the members of its name: one gives it, or there is none and it stands for
an absent one. -/
inductive Settles (P : Json → α → Prop) (absent : Option α) : List Json → α → Prop
  | absent {a : α} (h : absent = some a) : Settles P absent [] a
  | given {j : Json} {a : α} (h : P j a) : Settles P absent [j] a

/-- The object with these members presents the values. -/
def Presents (P : ∀ ⦃α : Type⦄, String → F α → Json → α → Prop) {σ ρ : Type} :
    Members F σ ρ → σ → List (String × Json) → Prop
  | .done, (), _ => True
  | .member name format absent _ rest, (a, values), members =>
    Settles (P name format) absent (valuesOf name members) a ∧
      rest.Presents P values (besides name members)

/-- What putting one member does to the values read so far. -/
def Puts (P : ∀ ⦃α : Type⦄, String → F α → Json → α → Prop) {σ ρ : Type} :
    Members F σ ρ → ρ → String → Json → ρ → Prop
  | .done, (), _, _, () => True
  | .member name format _ _ rest, (read, others), key, j, (read', others') =>
    if key = name then read = none ∧ others' = others ∧ ∃ a, P name format j a ∧ read' = some a
    else read' = read ∧ rest.Puts P others key j others'

/-- What the members of one name do to the value read so far. -/
inductive Turns (P : Json → α → Prop) : Option α → List Json → Option α → Prop
  | same {read : Option α} : Turns P read [] read
  | given {j : Json} {a : α} (h : P j a) : Turns P none [j] (some a)

/-- A run over members goes on in two places: for one name, and for the other names. -/
theorem runs_member_iff {rest : Members F σ ρ} {format : F α} {absent short read read' : Option α}
    {others others' : ρ} :
    Runs ((member name format absent short rest).Puts P) (read, others) members (read', others') ↔
      Turns (P name format) read (valuesOf name members) read' ∧
        Runs (rest.Puts P) others (besides name members) others' := by
  induction members generalizing read others with
  | nil =>
    constructor
    · rintro ⟨⟩
      exact ⟨.same, .done⟩
    · rintro ⟨⟨⟩, ⟨⟩⟩
      exact .done
  | cons m members ih =>
    obtain ⟨key, j⟩ := m
    by_cases hk : key = name
    · subst hk
      rw [valuesOf_cons_self, besides_cons_self]
      constructor
      · intro h
        cases h with
        | @step _ b _ _ _ _ h hs =>
          obtain ⟨read, others⟩ := b
          rw [Puts, if_pos rfl] at h
          obtain ⟨rfl, rfl, a, ha, rfl⟩ := h
          obtain ⟨hturns, hrest⟩ := ih.mp hs
          generalize valuesOf key members = js at hturns
          cases hturns
          exact ⟨.given ha, hrest⟩
      · rintro ⟨hturns, hrest⟩
        generalize hjs : valuesOf key members = js at hturns
        cases hturns with
        | @given _ a ha =>
          refine .step (b := (some a, others)) ?_ (ih.mpr ⟨hjs ▸ .same, hrest⟩)
          rw [Puts, if_pos rfl]
          exact ⟨rfl, rfl, a, ha, rfl⟩
    · rw [valuesOf_cons_ne hk, besides_cons_ne hk]
      constructor
      · intro h
        cases h with
        | @step _ b _ _ _ _ h hs =>
          obtain ⟨read, others⟩ := b
          rw [Puts, if_neg hk] at h
          obtain ⟨rfl, h⟩ := h
          obtain ⟨hturns, hrest⟩ := ih.mp hs
          exact ⟨hturns, .step h hrest⟩
      · rintro ⟨hturns, hrest⟩
        cases hrest with
        | @step _ b _ _ _ _ h hs =>
          refine .step (b := (read, b)) ?_ (ih.mpr ⟨hturns, hs⟩)
          rw [Puts, if_neg hk]
          exact ⟨rfl, h⟩

theorem runs_done (members : List (String × Json)) : Runs (done.Puts P) () members () := by
  induction members with
  | nil => exact .done
  | cons m members ih => exact .step trivial ih

theorem complete_member_iff {rest : Members F σ ρ} {format : F α} {absent short read : Option α}
    {others : ρ} {v : α × σ} :
    (member name format absent short rest).complete (read, others) = .ok v ↔
      (read <|> absent) = some v.1 ∧ rest.complete others = .ok v.2 := by
  obtain ⟨a, values⟩ := v
  rw [complete]
  split
  · next h => simp [h]
  · next b h =>
    rw [map_eq_ok_iff, h]
    constructor
    · rintro ⟨values', hv, hr⟩
      cases hr
      exact ⟨rfl, hv⟩
    · rintro ⟨hb, hv⟩
      cases hb
      exact ⟨values, hv, rfl⟩

/-- The objects over which a run leads to the values are those that present them. -/
theorem exists_runs_iff_presents {ms : Members F σ ρ} {v : σ} :
    (∃ read, Runs (ms.Puts P) ms.start members read ∧ ms.complete read = .ok v) ↔
      ms.Presents P v members := by
  induction ms generalizing members with
  | done => exact ⟨fun _ => trivial, fun _ => ⟨(), runs_done members, rfl⟩⟩
  | member name format absent short rest ih =>
    obtain ⟨a, values⟩ := v
    rw [Presents, ← ih]
    constructor
    · rintro ⟨⟨read, others⟩, hruns, hcomplete⟩
      obtain ⟨hturns, hrest⟩ := runs_member_iff.mp hruns
      obtain ⟨ha, hvalues⟩ := complete_member_iff.mp hcomplete
      refine ⟨?_, others, hrest, hvalues⟩
      generalize valuesOf name members = js at hturns
      cases hturns with
      | same => exact .absent ha
      | given h =>
        obtain rfl := Option.some.inj ha
        exact .given h
    · rintro ⟨hsettles, others, hrest, hvalues⟩
      generalize hjs : valuesOf name members = js at hsettles
      cases hsettles with
      | absent h =>
        exact ⟨(none, others), runs_member_iff.mpr ⟨hjs ▸ .same, hrest⟩,
          complete_member_iff.mpr ⟨h, hvalues⟩⟩
      | given h =>
        exact ⟨(some a, others), runs_member_iff.mpr ⟨hjs ▸ .given h, hrest⟩,
          complete_member_iff.mpr ⟨rfl, hvalues⟩⟩

variable {ms : Members F σ ρ} {v : σ}

/-- The property holds of the name and the format of each member. -/
def All (Q : ∀ ⦃α : Type⦄, String → F α → Prop) {σ ρ : Type} : Members F σ ρ → Prop
  | .done => True
  | .member name format _ _ rest => Q name format ∧ rest.All Q

theorem All.imp {Q Q' : ∀ ⦃α : Type⦄, String → F α → Prop} (h : ms.All Q)
    (hQ : ∀ ⦃α : Type⦄ name (f : F α), Q name f → Q' name f) : ms.All Q' := by
  induction ms with
  | done => trivial
  | member name format absent short rest ih => exact ⟨hQ name format h.1, ih h.2⟩

theorem Presents.imp (h : ms.Presents P v members)
    {P' : ∀ ⦃α : Type⦄, String → F α → Json → α → Prop}
    (hP : ms.All fun _ name f => ∀ j a, P name f j a → P' name f j a) :
    ms.Presents P' v members := by
  induction ms generalizing members with
  | done => trivial
  | member name format absent short rest ih =>
    obtain ⟨hsettles, hrest⟩ := h
    refine ⟨?_, ih hrest hP.2⟩
    generalize valuesOf name members = js at hsettles
    cases hsettles with
    | absent h => exact .absent h
    | given h => exact .given (hP.1 _ _ h)

/-- The order of the members does not matter. -/
theorem Presents.perm (h : ms.Presents P v members) {members' : List (String × Json)}
    (hp : members'.Perm members) : ms.Presents P v members' := by
  induction ms generalizing members members' with
  | done => trivial
  | member name format absent short rest ih =>
    obtain ⟨hsettles, hrest⟩ := h
    have hvalues : (valuesOf name members').Perm (valuesOf name members) :=
      (hp.filter _).map _
    refine ⟨?_, ih hrest (hp.filter _)⟩
    generalize valuesOf name members = js at hsettles hvalues
    cases hsettles with
    | absent h => rw [hvalues.eq_nil]; exact .absent h
    | given h => rw [List.perm_singleton.mp hvalues]; exact .given h

/-- No member of the record stands in the object twice. -/
theorem Presents.count_le (h : ms.Presents P v members) {name : String} (hn : name ∈ ms.names) :
    (members.map Prod.fst).count name ≤ 1 := by
  induction ms generalizing members with
  | done => cases hn
  | member first format absent short rest ih =>
    obtain ⟨hsettles, hrest⟩ := h
    by_cases hf : name = first
    · subst hf
      rw [← length_valuesOf]
      generalize valuesOf name members = js at hsettles
      cases hsettles with
      | absent => exact Nat.zero_le 1
      | given => exact Nat.le_refl 1
    · rw [← count_besides hf]
      exact ih hrest ((List.mem_cons.mp hn).resolve_left hf)

/-- Whatever holds of the values of each member of the record, holds of those in the object. -/
theorem Presents.forall_mem {Q : String → Json → Prop}
    (h : ms.Presents (fun _ name _ j _ => Q name j) v members) :
    ∀ m ∈ members, m.1 ∈ ms.names → Q m.1 m.2 := by
  induction ms generalizing members with
  | done => exact fun _ _ hn => nomatch hn
  | member name format absent short rest ih =>
    obtain ⟨hsettles, hrest⟩ := h
    intro m hm hn
    by_cases hf : m.1 = name
    · have hmem : m.2 ∈ valuesOf name members :=
        List.mem_map_of_mem (List.mem_filter.mpr ⟨hm, decide_eq_true hf⟩)
      generalize valuesOf name members = js at hsettles hmem
      cases hsettles with
      | absent => cases hmem
      | given h =>
        rw [hf, List.mem_singleton.mp hmem]
        exact h
    · refine ih hrest m (List.mem_filter.mpr ⟨hm, decide_eq_true hf⟩) ?_
      exact (List.mem_cons.mp hn).resolve_left hf

/-! ## From a tree -/

theorem putTree_eq_ok_iff {ms : Members FromTree σ ρ} {read read' : ρ} :
    ms.putTree key j read = .ok read' ↔
      ms.Puts (fun _ _ f j a => f j = .ok a) read key j read' := by
  induction ms with
  | done => exact ⟨fun _ => trivial, fun _ => rfl⟩
  | member name format absent short rest ih =>
    obtain ⟨r, others⟩ := read
    obtain ⟨r', others'⟩ := read'
    rw [putTree, Puts]
    split
    · cases r with
      | none =>
        rw [if_neg (by simp), map_eq_ok_iff]
        constructor
        · rintro ⟨a, ha, hr⟩
          cases hr
          exact ⟨rfl, rfl, a, ha, rfl⟩
        · rintro ⟨-, rfl, a, ha, rfl⟩
          exact ⟨a, ha, rfl⟩
      | some b => simp
    · rw [map_eq_ok_iff, ← ih]
      constructor
      · rintro ⟨o, ho, hr⟩
        cases hr
        exact ⟨rfl, ho⟩
      · rintro ⟨rfl, ho⟩
        exact ⟨others', ho, rfl⟩

/-- The values are read from the trees of the objects that present them. -/
theorem ofTree_object_iff {ms : Members FromTree σ ρ} {title : String} {v : σ} :
    ms.ofTree title (.object members) = .ok v ↔
      ms.Presents (fun _ _ f j a => f j = .ok a) v members := by
  rw [← exists_runs_iff_presents]
  refine bind_eq_ok_iff.trans (exists_congr fun read => and_congr_left fun _ => ?_)
  exact foldlM_eq_ok_iff_runs fun _ _ _ _ => putTree_eq_ok_iff

/-! ## From a text -/

theorem put_takes_of_puts {ms : Members Format σ ρ} {room : Nat} {read read' : ρ}
    (h : ms.Puts (fun _ _ f j a => Takes (f.read room) j a) read key j read') :
    TakesAfterName (ms.put room key read) j read' := by
  induction ms with
  | done =>
    intro w w' t s hw hw' ht hs
    rw [put, readColon_blank hw]
    dsimp only
    rw [skipValue_written hw' ht hs]
    rfl
  | member name format absent short rest ih =>
    obtain ⟨r, others⟩ := read
    obtain ⟨r', others'⟩ := read'
    intro w w' t s hw hw' ht hs
    rw [Puts] at h
    rw [put]
    split at h
    · next hk =>
      obtain ⟨rfl, rfl, a, ha, rfl⟩ := h
      rw [if_pos hk, readColon_blank hw]
      dsimp only [Option.isSome]
      rw [ha hw' ht hs]
      rfl
    · next hk =>
      obtain ⟨rfl, h⟩ := h
      rw [if_neg hk, ih h hw hw' ht hs]
      rfl

/-- A reader of the members steps over an object that presents the values. -/
theorem Presents.steps {ms : Members Format σ ρ} {room : Nat} {v : σ}
    (h : ms.Presents (fun _ _ f j a => Takes (f.read room) j a) v members) :
    ∃ read, Steps (ms.put room) ms.start members read ∧ ms.complete read = .ok v := by
  obtain ⟨read, hruns, hcomplete⟩ := exists_runs_iff_presents.mpr h
  exact ⟨read, hruns.steps fun _ _ _ _ => put_takes_of_puts, hcomplete⟩

end Members
end SubscriberContract.Json
