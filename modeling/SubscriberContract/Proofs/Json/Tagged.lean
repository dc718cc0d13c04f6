import SubscriberContract.Json.Tagged
import SubscriberContract.Proofs.Json.Faithful

/-!
# Faithful tagged unions

The object of a union value has its tag first, but the tag may stand anywhere. From the text and
from a kept tree the object is split into the variant and the members beside the tag; whatever is
split is not made deeper by it.
-/

namespace SubscriberContract.Json.Tagged

variable {α : Type} {u : Tagged α} {name : String} {beside before after : List (String × Json)}

/-! ## From a tree -/

theorem splitMembers_some (hb : ∀ p ∈ beside, p.1 ≠ u.tag) (t : String) :
    u.splitMembers (some t) beside = .ok (t, beside) := by
  induction beside with
  | nil => rfl
  | cons p beside ih =>
    obtain ⟨hp, hb⟩ := List.forall_mem_cons.mp hb
    rw [splitMembers, if_neg hp, ih hb]
    rfl

theorem splitMembers_none (hn : u.variant name = .ok name)
    (hb : ∀ p ∈ before ++ after, p.1 ≠ u.tag) :
    u.splitMembers none (before ++ (u.tag, .text name) :: after) = .ok (name, before ++ after) := by
  induction before with
  | nil =>
    rw [List.nil_append, splitMembers, if_pos rfl]
    show (u.variant name >>= fun t => u.splitMembers (some t) after) = _
    rw [hn]
    exact splitMembers_some hb name
  | cons p before ih =>
    obtain ⟨hp, hb⟩ := List.forall_mem_cons.mp hb
    rw [List.cons_append, splitMembers, if_neg hp, ih hb]
    rfl

/-- The object of a value is split at its tag. -/
theorem split_object (hn : u.variant name = .ok name) (hb : ∀ p ∈ before ++ after, p.1 ≠ u.tag) :
    u.split (.object (before ++ (u.tag, .text name) :: after)) =
      .ok (name, .object (before ++ after)) := by
  show (u.splitMembers none (before ++ (u.tag, .text name) :: after) >>= _) = _
  rw [splitMembers_none hn hb]
  rfl

theorem mem_of_splitMembers {tag : Option String} {members : List (String × Json)} {t : String}
    (h : u.splitMembers tag members = .ok (t, beside)) : ∀ p ∈ beside, p ∈ members := by
  induction members generalizing tag beside with
  | nil => cases tag <;> cases h; exact nofun
  | cons m members ih =>
    unfold splitMembers at h
    split at h
    · next hm => cases hm
    · next hm => cases hm
    · next hm =>
      cases hm
      split at h
      · split at h
        · cases h
        · obtain ⟨t', -, h⟩ := bind_eq_ok_iff.mp h
          exact fun p hp => List.mem_cons_of_mem _ (ih h p hp)
      · obtain ⟨⟨t', others⟩, ho, h⟩ := bind_eq_ok_iff.mp h
        cases h
        intro p hp
        rcases List.mem_cons.mp hp with rfl | hp
        · exact List.mem_cons_self
        · exact List.mem_cons_of_mem _ (ih ho p hp)

/-- What stands beside the tag is an array or object, and no deeper than the whole. -/
theorem depth_of_split {j beside : Json} {t : String} (h : u.split j = .ok (t, beside)) :
    1 ≤ beside.depth ∧ beside.depth ≤ j.depth := by
  match j with
  | .object members =>
    obtain ⟨⟨t', others⟩, ho, h⟩ := bind_eq_ok_iff.mp h
    cases h
    have hmembers := depthOfMembers_le.mp (Nat.le_refl (depthOfMembers members))
    refine ⟨Nat.le_add_left 1 _, ?_⟩
    rw [depth.eq_2 members]
    exact depth_object_le.mpr fun p hp => hmembers p (mem_of_splitMembers ho p hp)
  | .array [] => cases h
  | .array (i :: items) =>
    obtain ⟨t', -, h⟩ := bind_eq_ok_iff.mp h
    cases h
    simp only [depth, depthOfItems]
    omega
  | .null | .boolean _ | .number _ | .text _ => cases h

/-! ## From a text -/

theorem readMember_tag (hn : u.variant name = .ok name) (room : Nat)
    (kept : List (String × Json)) :
    TakesAfterName (u.readMember room u.tag (none, kept)) (.text name) (some name, kept) := by
  intro w w' t s hw hw' ht hs
  have h : Takes u.readTag (.text name) name := readParsed_takes hn
  rw [readMember, if_pos rfl, readColon_blank hw]
  show (u.readTag _).map _ = _
  rw [h hw' ht hs]
  rfl

theorem steps_readMember {room : Nat} {t : Option String} {kept kept' : List (String × Json)}
    (h : Steps (readTreeMember (readTree room)) kept beside kept')
    (hb : ∀ p ∈ beside, p.1 ≠ u.tag) : Steps (u.readMember room) (t, kept) beside (t, kept') := by
  induction h with
  | done => exact .done
  | step hm _ ih =>
    obtain ⟨hne, hrest⟩ := List.forall_mem_cons.mp hb
    refine .step (b := (t, _)) (fun w w' u s hw hw' ht hs => ?_) (ih hrest)
    rw [readMember, if_neg hne, hm hw hw' ht hs]
    rfl

theorem readObject_takes (hn : u.variant name = .ok name)
    (hb : ∀ p ∈ before ++ after, p.1 ≠ u.tag) {room : Nat}
    (hd : ∀ p ∈ before ++ after, p.2.depth ≤ room) {t s : Input}
    (ht : Written .exact (.object (before ++ (u.tag, .text name) :: after)) ('\x7b' :: t)) :
    inObject (u.readObject room) (t ++ s) = .ok ((name, .object (before ++ after)), s) := by
  obtain ⟨hbbefore, hbafter⟩ := List.forall_mem_append.mp hb
  obtain ⟨hdbefore, hdafter⟩ := List.forall_mem_append.mp hd
  have hsteps : Steps (u.readMember room) (none, []) (before ++ (u.tag, .text name) :: after)
      (some name, after.reverse ++ (before.reverse ++ [])) := by
    refine (steps_readMember (steps_readTreeMember (fun p hp => ?_) []) hbbefore).append
      (.step (readMember_tag hn room _)
        (steps_readMember (steps_readTreeMember (fun p hp => ?_) _) hbafter))
    · exact readTree_takes (hdbefore p hp)
    · exact readTree_takes (hdafter p hp)
  refine inObject_takes ?_
  rw [readObject, readMembers_takes hsteps ht]
  simp

theorem readTag_misses (room : Nat) :
    MissesAfterName (u.readMember room u.tag (none, [])) (.text name) := by
  intro w w' t p q hw hw' ht hp hq
  have h : Misses u.readTag (.text name) := readParsed_misses _ _ _
  rw [readMember, if_pos rfl, if_neg (by simp)]
  obtain hcut | ⟨r, hcolon, hr⟩ := colon_cut hw hp
  · rw [hcut]
    exact .inl (ended_cut _)
  · rw [hcolon]
    dsimp only
    obtain hended | ⟨-, t, ht⟩ := h hw' ht hr hq
    · exact .inl (hended.map _)
    · exact .inr ⟨(some t, []), by rw [ht]; rfl⟩

theorem walk_readMember {room : Nat} {t : Option String} {kept : List (String × Json)}
    (h : Walk (readTreeMember (readTree room)) kept beside) (hb : ∀ p ∈ beside, p.1 ≠ u.tag) :
    Walk (u.readMember room) (t, kept) beside := by
  induction h with
  | done => exact .done
  | step ht hm _ ih =>
    obtain ⟨hne, hrest⟩ := List.forall_mem_cons.mp hb
    refine .step (b := (t, _)) (fun w w' u s hw hw' hj hs => ?_)
      (fun w w' u p q hw hw' hj hp hq => ?_) (ih hrest)
    · rw [readMember, if_neg hne, ht hw hw' hj hs]
      rfl
    · rw [readMember, if_neg hne]
      obtain hended | ⟨a, ha⟩ := hm hw hw' hj hp hq
      · exact .inl (hended.map _)
      · exact .inr ⟨(t, a), by rw [ha]; rfl⟩

theorem readObject_misses (hn : u.variant name = .ok name) (hb : ∀ p ∈ beside, p.1 ≠ u.tag)
    {room : Nat} (hd : ∀ p ∈ beside, p.2.depth ≤ room) {p q : Input}
    (ht : Written .exact (.object ((u.tag, .text name) :: beside)) ('\x7b' :: (p ++ q)))
    (hq : q ≠ []) : Ended (inObject (u.readObject room) p) := by
  have hkept : Walk (readTreeMember (readTree room)) [] beside :=
    walk_readTreeMember (fun p hp => ⟨readTree_takes (hd p hp), readTree_misses (hd p hp)⟩) []
  have hwalk : Walk (u.readMember room) (none, []) ((u.tag, .text name) :: beside) :=
    .step (readMember_tag hn room []) (readTag_misses room) (walk_readMember hkept hb)
  obtain ⟨f, hf, hended⟩ := readMembers_cut hwalk ht rfl hq
  refine Ended.enclosed ⟨f, ?_, hended⟩
  rw [readObject, hf]

theorem readObject_gives (u : Tagged α) (room : Nat) :
    Gives (u.readObject room) fun p => 1 ≤ p.2.depth ∧ p.2.depth ≤ room + 1 := by
  intro s p s' hs
  have hstep : ∀ key (state : Option String × List (String × Json)),
      (∀ p ∈ state.2, p.2.depth ≤ room) →
      Gives (u.readMember room key state) fun state => ∀ p ∈ state.2, p.2.depth ≤ room := by
    intro key state hstate s state' s' hs
    unfold readMember at hs
    split at hs
    · split at hs
      · cases hs
      · split at hs
        · cases hs
        · obtain ⟨r, -, hr⟩ := map_eq_ok_iff.mp hs
          cases hr
          exact hstate
    · obtain ⟨⟨kept, t⟩, hk, hr⟩ := map_eq_ok_iff.mp hs
      cases hr
      exact readTreeMember_gives (readTree_gives room) key hstate hk
  unfold readObject at hs
  split at hs
  · cases hs
  · cases hs
  · next t kept r hkept =>
    cases hs
    have hmembers := Gives.readMembers (I := fun state => ∀ p ∈ state.2, p.2.depth ≤ room)
      (List.forall_mem_nil _) hstep hkept
    refine ⟨Nat.le_add_left 1 _, depth_object_le.mpr fun p hp => ?_⟩
    exact hmembers p (List.mem_reverse.mp hp)

theorem readArray_gives (u : Tagged α) (room : Nat) :
    Gives (u.readArray room) fun p => 1 ≤ p.2.depth ∧ p.2.depth ≤ room + 1 := by
  intro s p s' hs
  unfold readArray at hs
  split at hs
  · cases hs
  · cases hs
  · split at hs
    · cases hs
    · obtain ⟨⟨items, r⟩, hitems, hr⟩ := map_eq_ok_iff.mp hs
      cases hr
      have hdepths := (readTree_gives room).readItems false hitems
      exact ⟨Nat.le_add_left 1 _, depth_array_le.mpr hdepths⟩

theorem readSplit_gives (u : Tagged α) (room : Nat) :
    Gives (u.readSplit room) fun p => 1 ≤ p.2.depth ∧ p.2.depth ≤ room := by
  refine Gives.afterSpaces fun s p s' hs => ?_
  split at hs
  · cases hs
  · cases hs
  · next room => exact (readArray_gives u room).enclosed hs
  · next room => exact (readObject_gives u room).enclosed hs
  · split at hs <;> cases hs

/-! ## The format -/

theorem format_takes (tree : α → Json) {a : α} (hn : u.variant name = .ok name)
    (hb : ∀ p ∈ before ++ after, p.1 ≠ u.tag)
    (hbuild : u.build name (.object (before ++ after)) = .ok a) {room : Nat}
    (hd : (Json.object (before ++ (u.tag, .text name) :: after)).depth ≤ room) :
    Takes ((u.format tree).read room) (.object (before ++ (u.tag, .text name) :: after)) a := by
  obtain ⟨room, rfl, hdepths⟩ := room_of_depth_object hd
  have hbeside : ∀ p ∈ before ++ after, p.2.depth ≤ room := fun p hp =>
    hdepths p (((List.sublist_cons_self _ after).append_left before).subset hp)
  intro w t s hw ht _
  obtain ⟨c, t', rfl, rfl⟩ := ht.opens
  have hsplit : u.readSplit (room + 1) (w ++ ('\x7b' :: t' ++ s)) =
      .ok ((name, .object (before ++ after)), s) := by
    unfold readSplit
    rw [afterSpaces_written hw ht]
    exact readObject_takes hn hb hbeside ht
  dsimp only [format]
  rw [hsplit]
  dsimp only
  rw [hbuild]

theorem format_blank (tree : α → Json) (room : Nat) {w : Input} (hw : Blank w) :
    Ended ((u.format tree).read room w) := by
  obtain ⟨f, hf, hended⟩ : Ended (u.readSplit room w) := afterSpaces_blank hw
  dsimp only [format]
  rw [hf]
  exact ⟨f, rfl, hended⟩

theorem format_misses {tree : α → Json} {a : α}
    (htree : tree a = .object ((u.tag, .text name) :: beside)) (hn : u.variant name = .ok name)
    (hb : ∀ p ∈ beside, p.1 ≠ u.tag) {room : Nat} (hd : (tree a).depth ≤ room) :
    Misses ((u.format tree).read room) (tree a) := by
  rw [htree] at hd ⊢
  obtain ⟨room, rfl, hdepths⟩ := room_of_depth_object hd
  have hbeside := (List.forall_mem_cons.mp hdepths).2
  have hsplit : Misses (u.readSplit (room + 1)) (.object ((u.tag, .text name) :: beside)) := by
    refine afterSpaces_misses fun c r q ht hq => .inl ?_
    obtain ⟨c', t', ht', rfl⟩ := ht.opens
    obtain ⟨rfl, -⟩ := List.cons.inj ht'
    exact readObject_misses hn hb hbeside ht hq
  intro w t p q hw ht hp hq
  obtain ⟨f, hf, hended⟩ | ⟨⟨n, hn⟩, -⟩ := hsplit hw ht hp hq
  · dsimp only [format]
    rw [hf]
    exact .inl ⟨f, rfl, hended⟩
  · cases hn

theorem format_gives (tree : α → Json) (room : Nat) : Gives ((u.format tree).read room) fun a =>
    ∃ t beside, 1 ≤ beside.depth ∧ beside.depth ≤ room ∧ u.build t beside = .ok a := by
  intro s a s' hs
  dsimp only [format] at hs
  split at hs
  · cases hs
  · next t beside r hsplit =>
    split at hs
    · cases hs
    · next hbuild =>
      cases hs
      obtain ⟨hleast, hmost⟩ := readSplit_gives u room hsplit
      exact ⟨t, beside, hleast, hmost, hbuild⟩

end SubscriberContract.Json.Tagged
