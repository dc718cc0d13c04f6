import SubscriberContract.Proofs.Json.Giving
import SubscriberContract.Proofs.Json.Taking

/-!
# The members of a record

What is known of the values of a record after reading: each was given by the reader of its member
or stands for an absent one. This holds for objects and for arrays, from texts and from trees.
-/

namespace SubscriberContract.Json.Members

variable {F : Type → Type} {σ ρ : Type}

/-- Each value has the property for its member, or stands for an absent one. -/
def Each (P : ∀ ⦃α : Type⦄, F α → α → Prop) {σ ρ : Type} : Members F σ ρ → σ → Prop
  | .done, () => True
  | .member _ format absent short rest, (a, values) =>
    (P format a ∨ absent = some a ∨ short = some a) ∧ rest.Each P values

/-- Each value that was read so far has the property for its member. -/
def SoFar (P : ∀ ⦃α : Type⦄, F α → α → Prop) {σ ρ : Type} : Members F σ ρ → ρ → Prop
  | .done, () => True
  | .member _ format _ _ rest, (read, others) => (∀ a ∈ read, P format a) ∧ rest.SoFar P others

variable {P : ∀ ⦃α : Type⦄, F α → α → Prop} {ms : Members F σ ρ}

theorem soFar_start : ms.SoFar P ms.start := by
  induction ms with
  | done => trivial
  | member _ _ _ _ _ ih => exact ⟨nofun, ih⟩

theorem SoFar.complete {read : ρ} (h : ms.SoFar P read) {values : σ}
    (hv : ms.complete read = .ok values) : ms.Each P values := by
  induction ms with
  | done => trivial
  | member name format absent short rest ih =>
    obtain ⟨r, others⟩ := read
    obtain ⟨hr, hothers⟩ := h
    rw [Members.complete] at hv
    split at hv
    · cases hv
    · next a ha =>
      obtain ⟨vs, hvs, rfl⟩ := map_eq_ok_iff.mp hv
      refine ⟨?_, ih hothers hvs⟩
      cases r with
      | none => exact .inr (.inl ha)
      | some b =>
        obtain rfl : b = a := Option.some.inj ha
        exact .inl (hr b rfl)

/-! ## From a text -/

/-- The value is given by the format's reader for some text. -/
def Given (room : Nat) ⦃α : Type⦄ (f : Format α) (a : α) : Prop :=
  ∃ s s', f.read room s = .ok (a, s')

theorem put_gives {ms : Members Format σ ρ} {room : Nat} (key : String) {read : ρ}
    (h : ms.SoFar (Given room) read) : Gives (ms.put room key read) (ms.SoFar (Given room)) := by
  intro s read' s' hs
  induction ms generalizing s s' with
  | done => trivial
  | member name format _ _ rest ih =>
    obtain ⟨r, others⟩ := read
    rw [put] at hs
    split at hs
    · split at hs
      · cases hs
      · split at hs
        · cases hs
        · next t _ =>
          obtain ⟨⟨a, u⟩, ha, hr⟩ := map_eq_ok_iff.mp hs
          cases hr
          refine ⟨fun b hb => ?_, h.2⟩
          obtain rfl : a = b := Option.some.inj hb
          exact ⟨t, _, ha⟩
    · obtain ⟨⟨others', u⟩, ho, hr⟩ := map_eq_ok_iff.mp hs
      cases hr
      exact ⟨h.1, ih h.2 ho⟩

theorem readObject_gives (ms : Members Format σ ρ) (room : Nat) :
    Gives (ms.readObject room) (ms.Each (Given room)) := by
  intro s values s' hs
  rw [readObject] at hs
  split at hs
  · cases hs
  · next read t hread =>
    split at hs
    · cases hs
    · next hv =>
      cases hs
      have hsofar : ms.SoFar (Given room) read :=
        Gives.readMembers soFar_start (fun key _ => put_gives key) hread
      exact hsofar.complete hv

theorem readInOrder_gives (ms : Members Format σ ρ) (expected : String) (room index : Nat) :
    Gives (ms.readInOrder expected room index) (ms.Each (Given room)) := by
  intro s values s' hs
  induction ms generalizing index s s' with
  | done => trivial
  | member name format _ short rest ih =>
    unfold readInOrder at hs
    split at hs
    · cases hs
    · split at hs
      · cases hs
      · obtain ⟨⟨vs, t⟩, hvs, hr⟩ := map_eq_ok_iff.mp hs
        cases hr
        exact ⟨.inr (.inr rfl), ih _ hvs⟩
    · next t _ =>
      split at hs
      · cases hs
      · next a u ha =>
        obtain ⟨⟨vs, v⟩, hvs, hr⟩ := map_eq_ok_iff.mp hs
        cases hr
        exact ⟨.inl ⟨t, u, ha⟩, ih _ hvs⟩

/-! ## From a tree -/

/-- The value is given for some tree of at most this depth. -/
def GivenFrom (depth : Nat) ⦃α : Type⦄ (f : FromTree α) (a : α) : Prop :=
  ∃ j : Json, j.depth ≤ depth ∧ f j = .ok a

theorem SoFar.putTree {ms : Members FromTree σ ρ} {n : Nat} {key : String} {value : Json}
    (hd : value.depth ≤ n) {read read' : ρ} (h : ms.SoFar (GivenFrom n) read)
    (hp : ms.putTree key value read = .ok read') : ms.SoFar (GivenFrom n) read' := by
  induction ms with
  | done => trivial
  | member name format _ _ rest ih =>
    obtain ⟨r, others⟩ := read
    rw [Members.putTree] at hp
    split at hp
    · split at hp
      · cases hp
      · obtain ⟨a, ha, rfl⟩ := map_eq_ok_iff.mp hp
        refine ⟨fun b hb => ?_, h.2⟩
        obtain rfl : a = b := Option.some.inj hb
        exact ⟨value, hd, ha⟩
    · obtain ⟨others', ho, rfl⟩ := map_eq_ok_iff.mp hp
      exact ⟨h.1, ih h.2 ho⟩

theorem ofItems_each {ms : Members FromTree σ ρ} {expected : String} {n index : Nat}
    {items left : List Json} (hd : ∀ j ∈ items, j.depth ≤ n) {values : σ}
    (h : ms.ofItems expected index items = .ok (values, left)) :
    ms.Each (GivenFrom n) values := by
  induction ms generalizing index items with
  | done => trivial
  | member name format _ short rest ih =>
    match items with
    | [] =>
      unfold ofItems at h
      split at h
      · cases h
      · obtain ⟨⟨vs, l⟩, hvs, hr⟩ := map_eq_ok_iff.mp h
        cases hr
        exact ⟨.inr (.inr rfl), ih (List.forall_mem_nil _) hvs⟩
    | item :: items =>
      obtain ⟨a, ha, h⟩ := bind_eq_ok_iff.mp h
      obtain ⟨⟨vs, l⟩, hvs, h⟩ := bind_eq_ok_iff.mp h
      cases h
      obtain ⟨hitem, hitems⟩ := List.forall_mem_cons.mp hd
      exact ⟨.inl ⟨item, hitem, ha⟩, ih hitems hvs⟩

theorem SoFar.foldlM_putTree {ms : Members FromTree σ ρ} {n : Nat}
    {members : List (String × Json)} (hd : ∀ p ∈ members, p.2.depth ≤ n) {read read' : ρ}
    (h : ms.SoFar (GivenFrom n) read)
    (hp : members.foldlM (fun read (key, value) => ms.putTree key value read) read = .ok read') :
    ms.SoFar (GivenFrom n) read' := by
  induction members generalizing read with
  | nil =>
    cases hp
    exact h
  | cons p members ih =>
    rw [List.foldlM_cons] at hp
    obtain ⟨next, hnext, hp⟩ := bind_eq_ok_iff.mp hp
    obtain ⟨hpd, hmembers⟩ := List.forall_mem_cons.mp hd
    exact ih hmembers (h.putTree hpd hnext) hp

theorem ofTree_each {ms : Members FromTree σ ρ} {title : String} {n : Nat} {j : Json}
    (hd : j.depth ≤ n + 1) {values : σ} (h : ms.ofTree title j = .ok values) :
    ms.Each (GivenFrom n) values := by
  cases j with
  | object members =>
    obtain ⟨read, hread, h⟩ := bind_eq_ok_iff.mp h
    exact (soFar_start.foldlM_putTree (depth_object_le.mp hd) hread).complete h
  | array items =>
    obtain ⟨⟨vs, left⟩, hvs, h⟩ := bind_eq_ok_iff.mp h
    dsimp only at h
    split at h
    · cases h
      exact ofItems_each (depth_array_le.mp hd) hvs
    · cases h
  | null | boolean | number | text => cases h

end SubscriberContract.Json.Members
