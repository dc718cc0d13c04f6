import SubscriberContract.Proofs.Json.Faithful
import SubscriberContract.Proofs.Json.Members

/-!
# Faithful records

The members of a record are faithful if their formats are, if what stands for an absent member is
good, and if no name occurs twice. Such a record is read from its own tree, and what it reads fits
with one level more than its members.
-/

namespace SubscriberContract.Json

variable {α σ ρ : Type}

/-- The values of a record are read from the members of their tree, and what is read fits. -/
structure Members.Faithful (ms : Members Format σ ρ) (good : σ → Prop) (least : Nat) : Prop where
  written : ∀ v, ∀ p ∈ ms.trees v, Written .exact p.2 p.2.chars
  takes : ∀ {room v}, good v → (∀ p ∈ ms.trees v, p.2.depth ≤ room) →
    ∃ read, Steps (ms.put room) ms.start (ms.trees v) read ∧ ms.complete read = .ok v
  walks : ∀ {room v}, good v → (∀ p ∈ ms.trees v, p.2.depth ≤ room) →
    Walk (ms.put room) ms.start (ms.trees v)
  lands : ∀ {room v}, least ≤ room → ms.Each (Members.Given room) v →
    good v ∧ ∀ p ∈ ms.trees v, p.2.depth ≤ room

namespace Members

theorem name_mem_of_mem_trees {ms : Members Format σ ρ} {v : σ} {p : String × Json}
    (hp : p ∈ ms.trees v) : p.1 ∈ ms.names := by
  induction ms with
  | done => cases hp
  | member name format _ _ rest ih =>
    rcases List.mem_cons.mp hp with rfl | hp
    · exact List.mem_cons_self
    · exact List.mem_cons_of_mem name (ih hp)

/-- Members with other names pass a member by. -/
theorem steps_member {rest : Members Format σ ρ} {room : Nat} {name : String} {format : Format α}
    {absent short read : Option α} {members : List (String × Json)} {before after : ρ}
    (h : Steps (rest.put room) before members after) (hn : ∀ p ∈ members, p.1 ≠ name) :
    Steps ((member name format absent short rest).put room) (read, before) members
      (read, after) := by
  induction h with
  | done => exact .done
  | step hm _ ih =>
    obtain ⟨hne, hrest⟩ := List.forall_mem_cons.mp hn
    refine .step (b := (read, _)) (fun w w' t s hw hw' ht hs => ?_) (ih hrest)
    rw [put, if_neg hne, hm hw hw' ht hs]
    rfl

theorem put_takes {rest : Members Format σ ρ} {room : Nat} {name : String} {format : Format α}
    {absent short : Option α} {others : ρ} {j : Json} {a : α} (h : Takes (format.read room) j a) :
    TakesAfterName ((member name format absent short rest).put room name (none, others)) j
      (some a, others) := by
  intro w w' t s hw hw' ht hs
  rw [put, if_pos rfl, readColon_blank hw]
  dsimp only [Option.isSome]
  rw [h hw' ht hs]
  rfl

theorem walk_member {rest : Members Format σ ρ} {room : Nat} {name : String} {format : Format α}
    {absent short read : Option α} {members : List (String × Json)} {before : ρ}
    (h : Walk (rest.put room) before members) (hn : ∀ p ∈ members, p.1 ≠ name) :
    Walk ((member name format absent short rest).put room) (read, before) members := by
  induction h with
  | done => exact .done
  | step ht hm _ ih =>
    obtain ⟨hne, hrest⟩ := List.forall_mem_cons.mp hn
    refine .step (b := (read, _)) (fun w w' t s hw hw' hj hs => ?_)
      (fun w w' t p q hw hw' hj hp hq => ?_) (ih hrest)
    · rw [put, if_neg hne, ht hw hw' hj hs]
      rfl
    · rw [put, if_neg hne]
      obtain hended | ⟨a, ha⟩ := hm hw hw' hj hp hq
      · exact .inl (hended.map _)
      · exact .inr ⟨(read, a), by rw [ha]; rfl⟩

theorem put_misses {rest : Members Format σ ρ} {room : Nat} {name : String} {format : Format α}
    {absent short : Option α} {others : ρ} {j : Json} (h : Misses (format.read room) j) :
    MissesAfterName ((member name format absent short rest).put room name (none, others)) j := by
  intro w w' t p q hw hw' ht hp hq
  rw [put, if_pos rfl]
  dsimp only [Option.isSome]
  obtain hcut | ⟨r, hcolon, hr⟩ := colon_cut hw hp
  · rw [hcut]
    exact .inl (ended_cut _)
  · rw [hcolon]
    dsimp only
    obtain hended | ⟨-, a, ha⟩ := h hw' ht hr hq
    · exact .inl (hended.map _)
    · exact .inr ⟨(some a, others), by rw [ha]; rfl⟩

theorem Faithful.done {least : Nat} : done.Faithful (fun _ => True) least where
  written _ _ := nofun
  takes := fun _ _ => ⟨(), .done, rfl⟩
  walks := fun _ _ => .done
  lands := fun _ _ => ⟨trivial, nofun⟩

variable {name : String} {rest : Members Format σ ρ} {goodRest : σ → Prop} {least : Nat}

theorem Faithful.member {format : Format α} {absent short : Option α} {good : α → Prop}
    (h : format.Faithful good least) (hname : name ∉ rest.names)
    (habsent : ∀ a ∈ absent, good a ∧ (format.tree a).depth ≤ least)
    (hshort : ∀ a ∈ short, good a ∧ (format.tree a).depth ≤ least)
    (hrest : rest.Faithful goodRest least) :
    (Members.member name format absent short rest).Faithful
      (fun v => good v.1 ∧ goodRest v.2) least where
  written v := List.forall_mem_cons.mpr ⟨h.written v.1, hrest.written v.2⟩
  takes := by
    intro room v hv hd
    obtain ⟨hdepth, hdepths⟩ := List.forall_mem_cons.mp hd
    obtain ⟨read, hsteps, hcomplete⟩ := hrest.takes hv.2 hdepths
    refine ⟨(some v.1, read), .step (put_takes (h.takes hv.1 hdepth)) ?_, ?_⟩
    · refine steps_member hsteps fun p hp => ?_
      rintro rfl
      exact hname (name_mem_of_mem_trees hp)
    · rw [complete]
      show (rest.complete read).map _ = _
      rw [hcomplete]
      rfl
  walks := by
    intro room v hv hd
    obtain ⟨hdepth, hdepths⟩ := List.forall_mem_cons.mp hd
    refine .step (put_takes (h.takes hv.1 hdepth)) (put_misses (h.misses hv.1 hdepth)) ?_
    refine walk_member (hrest.walks hv.2 hdepths) fun p hp => ?_
    rintro rfl
    exact hname (name_mem_of_mem_trees hp)
  lands := by
    intro room v hroom hv
    obtain ⟨ha, hothers⟩ := hv
    obtain ⟨hgood, hdepths⟩ := hrest.lands hroom hothers
    suffices good v.1 ∧ (format.tree v.1).depth ≤ room from
      ⟨⟨this.1, hgood⟩, List.forall_mem_cons.mpr ⟨this.2, hdepths⟩⟩
    rcases ha with ⟨s, s', hs⟩ | habs | hsh
    · exact h.lands hroom hs
    · exact (habsent v.1 habs).imp_right fun hd => Nat.le_trans hd hroom
    · exact (hshort v.1 hsh).imp_right fun hd => Nat.le_trans hd hroom

theorem Faithful.required {format : Format α} {good : α → Prop} (h : format.Faithful good least)
    (hname : name ∉ rest.names) (hrest : rest.Faithful goodRest least) :
    (required name format rest).Faithful (fun v => good v.1 ∧ goodRest v.2) least :=
  .member h hname nofun nofun hrest

theorem Faithful.defaulted {format : Format α} {value : α} {good : α → Prop}
    (h : format.Faithful good least) (hname : name ∉ rest.names) (hgood : good value)
    (hd : (format.tree value).depth ≤ least) (hrest : rest.Faithful goodRest least) :
    (defaulted name format value rest).Faithful (fun v => good v.1 ∧ goodRest v.2) least := by
  have hvalue : ∀ a ∈ some value, good a ∧ (format.tree a).depth ≤ least := by
    rintro a ⟨⟩
    exact ⟨hgood, hd⟩
  exact .member h hname hvalue hvalue hrest

theorem Faithful.nullable {format : Format (Option α)} {good : Option α → Prop}
    (h : format.Faithful good least) (hname : name ∉ rest.names) (hgood : good none)
    (hd : (format.tree none).depth ≤ least) (hrest : rest.Faithful goodRest least) :
    (nullable name format rest).Faithful (fun v => good v.1 ∧ goodRest v.2) least := by
  have hnone : ∀ a ∈ some none, good a ∧ (format.tree a).depth ≤ least := by
    rintro a ⟨⟩
    exact ⟨hgood, hd⟩
  exact .member h hname hnone nofun hrest

end Members

/-! ## Records -/

variable {title : String} {ms : Members Format σ ρ} {build : σ → α} {values : α → σ}
  {good : σ → Prop} {least : Nat}

theorem record_takes {members : List (String × Json)} {room : Nat} {read : ρ} {v : σ}
    (hsteps : Steps (ms.put room) ms.start members read) (hcomplete : ms.complete read = .ok v) :
    Takes ((Format.record title ms build values).read (room + 1)) (.object members) (build v) := by
  intro w t s hw ht _
  obtain ⟨c, t', rfl, rfl⟩ := ht.opens
  have hinside : ms.readObject room (t' ++ s) = .ok (v, '\x7d' :: s) := by
    rw [Members.readObject, readMembers_takes hsteps ht]
    dsimp only
    rw [hcomplete]
  show afterSpaces _ _ = _
  rw [afterSpaces_written hw ht]
  exact map_eq_ok_iff.mpr ⟨(v, s), inObject_takes hinside, rfl⟩

theorem record_takes_tree (h : ms.Faithful good least) {room : Nat} {a : α}
    (hbuild : build (values a) = a) (ha : good (values a))
    (hd : ((Format.record title ms build values).tree a).depth ≤ room) :
    Takes ((Format.record title ms build values).read room)
      ((Format.record title ms build values).tree a) a := by
  obtain ⟨room, rfl, hdepths⟩ := room_of_depth_object hd
  obtain ⟨read, hsteps, hcomplete⟩ := h.takes ha hdepths
  have htakes : Takes ((Format.record title ms build values).read (room + 1)) _
      (build (values a)) := record_takes hsteps hcomplete
  rwa [hbuild] at htakes

theorem record_misses (h : ms.Faithful good least) {room : Nat} {a : α} (ha : good (values a))
    (hd : ((Format.record title ms build values).tree a).depth ≤ room) :
    Misses ((Format.record title ms build values).read room)
      ((Format.record title ms build values).tree a) := by
  obtain ⟨room, rfl, hdepths⟩ := room_of_depth_object hd
  refine afterSpaces_misses fun c r q ht hq => .inl ?_
  obtain ⟨c', t', ht', rfl⟩ := ht.opens
  obtain ⟨rfl, -⟩ := List.cons.inj ht'
  have hinside : Ended (ms.readObject room r) := by
    obtain ⟨f, hf, hended⟩ := readMembers_cut (h.walks ha hdepths) ht rfl hq
    rw [Members.readObject, hf]
    exact ⟨f, rfl, hended⟩
  exact hinside.enclosed.map _

theorem record_gives (room : Nat) : Gives ((Format.record title ms build values).read room)
    fun a => ∃ n v, room = n + 1 ∧ ms.Each (Members.Given n) v ∧ build v = a := by
  refine Gives.afterSpaces fun s a s' hs => ?_
  obtain ⟨⟨v, t⟩, hv, hr⟩ := map_eq_ok_iff.mp hs
  cases hr
  split at hv
  · cases hv
  · cases hv
  · next n => exact ⟨n, v, rfl, (Members.readInOrder_gives ms _ n 0).enclosed hv, rfl⟩
  · next n => exact ⟨n, v, rfl, (Members.readObject_gives ms n).enclosed hv, rfl⟩
  · exact absurd hv wrongType_ne_ok

theorem Format.Faithful.record (h : ms.Faithful good least) (hbuild : ∀ a, build (values a) = a)
    (hvalues : ∀ v, values (build v) = v) :
    (Format.record title ms build values).Faithful (fun a => good (values a)) (least + 1) where
  written a := written_object (h.written (values a))
  takes := fun ha hd => record_takes_tree h (hbuild _) ha hd
  blank := fun _ _ hw => afterSpaces_blank hw
  misses := fun ha hd => record_misses h ha hd
  lands := by
    intro room hroom s a s' hs
    obtain ⟨n, v, rfl, hv, rfl⟩ := record_gives room hs
    have hfits := h.lands (Nat.le_of_succ_le_succ hroom) hv
    rw [← hvalues v] at hfits
    exact ⟨hfits.1, depth_object_le.mpr hfits.2⟩

/-- How the values of a record are read does not depend on what is built from them. -/
theorem decode_record (text : String) : (Format.record title ms build values).decode text =
    ((Format.record title ms id id).decode text).map build := by
  have hread (s : Input) : (Format.record title ms build values).read maxDepth s =
      ((Format.record title ms id id).read maxDepth s).map fun p => (build p.1, p.2) := by
    have hinside (r : Except Failure (σ × Input)) : r.map (fun p => (build p.1, p.2)) =
        (r.map fun p => (id p.1, p.2)).map fun p => (build p.1, p.2) := by
      cases r <;> rfl
    unfold Format.record afterSpaces
    dsimp only
    split
    · rfl
    · exact hinside _
  unfold Format.decode readWhole
  rw [hread]
  cases (Format.record title ms id id).read maxDepth text.toList with
  | error f => rfl
  | ok p =>
    show (readEnd p.2 >>= fun _ => _) = Except.map build (readEnd p.2 >>= fun _ => _)
    cases readEnd p.2 <;> rfl

end SubscriberContract.Json
