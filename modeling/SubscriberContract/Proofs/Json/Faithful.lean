import SubscriberContract.Proofs.Json.Cut
import SubscriberContract.Proofs.Json.Giving

/-!
# Faithful formats

A format is faithful for the `good` values if it takes the tree of each of them that fits into the
room, and if it gives no others: whatever text a value was read from, it is good and its tree fits
into the room in which it was read. Absent members are read as empty lists, whose tree needs room
that the text did not; so the second half asks for a `least` room, which depends on the format only.
A faithful format also misses the end of each text of such a tree that is cut.

The two halves together are `Format.Faithful.decode_encode_iff`.
-/

namespace SubscriberContract.Json

variable {α : Type}

structure Format.Faithful (f : Format α) (good : α → Prop) (least : Nat) : Prop where
  written : ∀ a, Written .exact (f.tree a) (f.tree a).chars
  takes : ∀ {room a}, good a → (f.tree a).depth ≤ room → Takes (f.read room) (f.tree a) a
  blank : ∀ room ⦃w : Input⦄, Blank w → Ended (f.read room w)
  misses : ∀ {room a}, good a → (f.tree a).depth ≤ room → Misses (f.read room) (f.tree a)
  lands : ∀ {room}, least ≤ room → Gives (f.read room) fun a => good a ∧ (f.tree a).depth ≤ room

/-- What a reader takes from a tree it reads from the compact text, of which nothing is left. -/
theorem readWhole_compact {read : Reader α} {j : Json} {a : α} (h : Takes read j a)
    (hj : Written .exact j j.chars) : readWhole read j.compact = .ok a := by
  have hread := h blank_nil hj (follows_of_ends ends_nil _)
  rw [List.nil_append, List.append_nil] at hread
  unfold readWhole compact
  rw [String.toList_ofList, hread]
  rfl

namespace Format.Faithful

variable {f : Format α} {good : α → Prop} {least : Nat}

theorem mono (h : f.Faithful good least) {least' : Nat} (hl : least ≤ least') :
    f.Faithful good least' where
  written := h.written
  takes := h.takes
  blank := h.blank
  misses := h.misses
  lands := fun hroom => h.lands (Nat.le_trans hl hroom)

theorem congr (h : f.Faithful good least) {good' : α → Prop} (hg : ∀ a, good a ↔ good' a) :
    f.Faithful good' least where
  written := h.written
  takes := fun ha => h.takes ((hg _).mpr ha)
  blank := h.blank
  misses := fun ha => h.misses ((hg _).mpr ha)
  lands := fun hroom => (h.lands hroom).mono fun a ha => ⟨(hg a).mp ha.1, ha.2⟩

/-! ## Whole texts -/

/-- Every value that is decoded is good, and its tree fits. -/
theorem good_of_decode (h : f.Faithful good least) (hl : least ≤ maxDepth) {text : String} {a : α}
    (ha : f.decode text = .ok a) : good a ∧ (f.tree a).depth ≤ maxDepth := by
  obtain ⟨⟨b, s⟩, hb, hs⟩ := bind_eq_ok_iff.mp ha
  obtain ⟨-, -, hab⟩ := bind_eq_ok_iff.mp hs
  cases hab
  exact h.lands hl hb

/-- A good value whose tree fits is decoded from its own text. -/
theorem decode_encode_of_good (h : f.Faithful good least) {a : α} (ha : good a)
    (hd : (f.tree a).depth ≤ maxDepth) : f.decode (f.encode a) = .ok a :=
  readWhole_compact (h.takes ha hd) (h.written a)

theorem decode_encode_iff (h : f.Faithful good least) (hl : least ≤ maxDepth) (a : α) :
    f.decode (f.encode a) = .ok a ↔ good a ∧ (f.tree a).depth ≤ maxDepth :=
  ⟨h.good_of_decode hl, fun ⟨ha, hd⟩ => h.decode_encode_of_good ha hd⟩

end Format.Faithful

theorem follows_of_ne_number {j : Json} (h : ∀ n, j ≠ .number n) (s : Input) : Follows j s := by
  cases j with
  | number n => exact absurd rfl (h n)
  | _ => trivial

theorem readEnd_eq_ok {w : Input} (hw : Blank w) : readEnd w = .ok () := by
  unfold readEnd
  rw [skipSpaces_blank hw]

/-! ## Words, texts and choices -/

theorem afterSpaces_written {read : Reader α} {k : Precision} {w t : Input} {j : Json}
    (hw : Blank w) (hj : Written k j t) (s : Input) :
    afterSpaces read (w ++ (t ++ s)) = read (t ++ s) := by
  obtain ⟨c, t', rfl, hc⟩ := hj.opens
  unfold afterSpaces
  rw [List.cons_append, skipSpaces_blank_cons hw hc.not_space]

theorem afterSpaces_blank {read : Reader α} {w : Input} (hw : Blank w) :
    Ended (afterSpaces read w) := by
  unfold afterSpaces
  rw [skipSpaces_blank hw]
  exact ended_cut _

/-- It remains to miss the end behind the first character. -/
theorem afterSpaces_misses {read : Reader α} {j : Json}
    (h : ∀ c r q, Written .exact j (c :: (r ++ q)) → q ≠ [] →
      Ended (read (c :: r)) ∨ (∃ n, j = .number n) ∧ ∃ a, read (c :: r) = .ok (a, [])) :
    Misses (afterSpaces read) j := by
  intro w t p q hw ht hp hq
  obtain hblank | ⟨c, r, rfl, rfl⟩ := cut_blank hw hp
  · exact .inl (afterSpaces_blank hblank)
  · obtain ⟨c', t', ht', hc⟩ := ht.opens
    obtain ⟨rfl, -⟩ := List.cons.inj ht'
    have hread : afterSpaces read (w ++ c :: r) = read (c :: r) := by
      unfold afterSpaces
      rw [skipSpaces_blank_cons hw hc.not_space]
    rw [hread]
    exact h c r q ht hq

/-- A natural without a sign is written by its digits. -/
theorem Numeral.eq_toDigits {n : Nat} {t : Input} (h : Numeral .exact (.natural n) t) :
    t = Nat.toDigits 10 n := by
  generalize hm : Number.natural n = m at h
  cases h with
  | natural =>
    cases hm
    rfl
  | minus =>
    unfold Number.minus at hm
    split at hm <;> cases hm

theorem readWordOf_toDigits (n : UInt32) {s : Input} (hs : Ends s) :
    Format.readWordOf false (Nat.toDigits 10 n.toNat ++ s) = .ok (n, s) := by
  have hn : n.toNat < UInt32.size := n.toNat_lt
  unfold Format.readWordOf
  rw [readNumeral_toDigits (Nat.lt_trans hn (by decide)) false hs]
  dsimp only [Format.wordOf]
  rw [if_neg (by simp)]
  dsimp only
  rw [if_pos hn]
  dsimp only
  rw [Nat.toUInt32_eq, UInt32.ofNat_toNat]

theorem Format.Faithful.word : Format.word.Faithful (fun _ => True) 0 where
  written n := written_natural (Nat.lt_trans n.toNat_lt (by decide))
  takes := by
    intro room n _ _ w t s hw ht hs
    show afterSpaces _ _ = _
    rw [afterSpaces_written hw ht]
    cases ht with
    | number ht =>
      obtain rfl := ht.eq_toDigits
      obtain ⟨c, t', hct, hc⟩ := (digits_toDigits n.toNat).exists_cons
      have h := readWordOf_toDigits n hs
      rw [hct, List.cons_append] at h ⊢
      split
      · next h' =>
        rw [(List.cons.inj h').1] at hc
        exact absurd hc (by decide)
      · next h' => cases h'
      · next h' =>
        obtain ⟨rfl, rfl⟩ := List.cons.inj h'
        rw [if_pos hc, h]
  blank := fun _ _ hw => afterSpaces_blank hw
  misses := by
    intro room n _ _
    refine afterSpaces_misses fun c r q ht _ => .inr ⟨⟨_, rfl⟩, ?_⟩
    cases ht with
    | number ht =>
      have hn : n.toNat < UInt32.size := n.toNat_lt
      have hc : isDigit c = true :=
        (digits_toDigits n.toNat).2 c (ht.eq_toDigits ▸ List.mem_cons_self)
      obtain ⟨m, hm, hread⟩ := readNumeral_cut (Nat.lt_trans hn (by decide)) false
        (p := c :: r) ht.eq_toDigits.symm (List.cons_ne_nil c r)
      refine ⟨m.toUInt32, ?_⟩
      split
      · next h' =>
        rw [(List.cons.inj h').1] at hc
        exact absurd hc (by decide)
      · next h' => cases h'
      · next h' =>
        obtain ⟨rfl, rfl⟩ := List.cons.inj h'
        rw [if_pos hc, Format.readWordOf, hread]
        dsimp only [Format.wordOf]
        rw [if_neg (by simp)]
        dsimp only
        rw [if_pos (Nat.lt_of_le_of_lt hm hn)]
  lands := fun _ _ _ _ _ => ⟨trivial, Nat.zero_le _⟩

theorem readParsed_takes {expected : String} {parse : String → Except Mismatch α} {name : String}
    {a : α} (h : parse name = .ok a) :
    Takes (Format.readParsed expected parse) (.text name) a := by
  intro w t s hw ht _
  unfold Format.readParsed
  rw [afterSpaces_written hw ht]
  cases ht with
  | text ht =>
    rw [List.cons_append, List.append_assoc, List.singleton_append]
    split
    · next h' =>
      obtain ⟨-, rfl⟩ := List.cons.inj h'
      rw [readText_written ht]
      dsimp only
      rw [h]
    · next h' => exact absurd rfl (h' _)

theorem readParsed_misses (expected : String) (parse : String → Except Mismatch α) (name : String) :
    Misses (Format.readParsed expected parse) (.text name) := by
  refine afterSpaces_misses fun c r q ht hq => .inl ?_
  generalize hx : c :: (r ++ q) = x at ht
  cases ht with
  | text ht =>
    obtain ⟨rfl, hr⟩ := List.cons.inj hx
    obtain ⟨f, hf, hended⟩ := readText_cut ht hr.symm hq
    exact ⟨f, by simp only [hf], hended⟩

theorem Format.Faithful.text : Format.text.Faithful (fun _ => True) 0 where
  written := written_text
  takes := fun _ _ => readParsed_takes rfl
  blank := fun _ _ hw => afterSpaces_blank hw
  misses := fun {_ a} _ _ => readParsed_misses "a string" .ok a
  lands := fun _ _ _ _ _ => ⟨trivial, Nat.zero_le _⟩

theorem Format.Faithful.parsed {parse : String → Except Mismatch α} {print : α → String}
    {good : α → Prop} (hprint : ∀ a, good a → parse (print a) = .ok a)
    (hparse : ∀ t a, parse t = .ok a → good a) : (Format.parsed parse print).Faithful good 0 where
  written a := written_text (print a)
  takes := by
    intro room a ha _ w t s hw ht hs
    have h : Format.text.read room (w ++ (t ++ s)) = .ok (print a, s) :=
      Format.Faithful.text.takes trivial (Nat.zero_le _) hw ht hs
    dsimp only [Format.parsed]
    rw [h]
    dsimp only
    rw [hprint a ha]
  blank := by
    intro room w hw
    obtain ⟨f, hf, hended⟩ := Format.Faithful.text.blank room hw
    dsimp only [Format.parsed]
    rw [hf]
    exact ⟨f, rfl, hended⟩
  misses := by
    intro room a ha _ w t p q hw ht hp hq
    obtain ⟨f, hf, hended⟩ | ⟨⟨n, hn⟩, -⟩ :=
      Format.Faithful.text.misses (a := print a) trivial (Nat.zero_le room) hw ht hp hq
    · dsimp only [Format.parsed]
      rw [hf]
      exact .inl ⟨f, rfl, hended⟩
    · cases hn
  lands := by
    intro room _ s a s' hs
    refine ⟨?_, Nat.zero_le _⟩
    dsimp only [Format.parsed] at hs
    split at hs
    · cases hs
    · split at hs
      · cases hs
      · next ha =>
        cases hs
        exact hparse _ _ ha

theorem Format.Faithful.choice {all : List α} {name : α → String}
    (h : ∀ a, Format.variant all name (name a) = .ok a) :
    (Format.choice all name).Faithful (fun _ => True) 0 where
  written a := written_text (name a)
  takes := by
    intro room a _ _ w t s hw ht hs
    have h : Format.readParsed "variant identifier" (Format.variant all name) (t ++ s) =
        .ok (a, s) := readParsed_takes (h a) blank_nil ht hs
    show afterSpaces _ _ = _
    rw [afterSpaces_written hw ht]
    cases ht with
    | text ht => exact h
  blank := fun _ _ hw => afterSpaces_blank hw
  misses := by
    intro room a _ _
    refine afterSpaces_misses fun c r q ht hq => ?_
    have h := readParsed_misses "variant identifier" (Format.variant all name) (name a)
      (p := c :: r) blank_nil ht rfl hq
    generalize hx : c :: (r ++ q) = x at ht
    cases ht with
    | text =>
      obtain ⟨rfl, -⟩ := List.cons.inj hx
      exact h
  lands := fun _ _ _ _ _ => ⟨trivial, Nat.zero_le _⟩

/-! ## Options and lists -/

theorem Opens.eq_null {j : Json} (h : Opens j 'n') : j = .null := by
  match j, h with
  | .null, _ => rfl
  | .boolean true, h | .boolean false, h => simp [Opens] at h
  | .number _, h | .text _, h | .array _, h | .object _, h => simp [Opens, isDigit] at h

theorem optional_takes_null (item : Format α) (room : Nat) :
    Takes ((Format.optional item).read room) .null none := by
  intro w t s hw ht _
  cases ht
  dsimp only [Format.optional]
  rw [List.cons_append, skipSpaces_blank_cons hw (by decide)]
  rfl

theorem optional_takes_some {item : Format α} {room : Nat} {j : Json} {a : α}
    (h : Takes (item.read room) j a) (hj : j ≠ .null) :
    Takes ((Format.optional item).read room) j (some a) := by
  intro w t s hw ht hs
  have hread := h blank_nil ht hs
  obtain ⟨c, t', rfl, hc⟩ := ht.opens
  dsimp only [Format.optional]
  rw [List.cons_append, skipSpaces_blank_cons hw hc.not_space]
  split
  · next h' =>
    rw [(List.cons.inj h').1] at hc
    exact absurd hc.eq_null hj
  · rw [List.nil_append, List.cons_append] at hread
    rw [hread]
    rfl

theorem list_takes {item : Format α} {room : Nat} {js : List Json} {as : List α}
    (h : List.Forall₂ (Takes (item.read room)) js as) :
    Takes ((Format.list item).read (room + 1)) (.array js) as := by
  intro w t s hw ht _
  obtain ⟨c, t', rfl, rfl⟩ := ht.opens
  show afterSpaces _ _ = _
  rw [afterSpaces_written hw ht]
  exact inList_takes h ht

theorem Format.Faithful.optional {item : Format α} {good : α → Prop} {least : Nat}
    (h : item.Faithful good least) (hnull : ∀ a, item.tree a ≠ .null) :
    (Format.optional item).Faithful (fun o => ∀ a ∈ o, good a) least where
  written o := by
    cases o with
    | none => exact .null
    | some a => exact h.written a
  takes := by
    intro room o ho hd
    cases o with
    | none => exact optional_takes_null item room
    | some a => exact optional_takes_some (h.takes (ho a rfl) hd) (hnull a)
  blank := by
    intro room w hw
    dsimp only [Format.optional]
    rw [skipSpaces_blank hw]
    exact (h.blank room blank_nil).map _
  misses := by
    intro room o ho hd w t p q hw ht hp hq
    dsimp only [Format.optional]
    obtain hblank | ⟨c, r, rfl, rfl⟩ := cut_blank hw hp
    · rw [skipSpaces_blank hblank]
      exact .inl ((h.blank room blank_nil).map _)
    obtain ⟨c', t', ht', hc⟩ := ht.opens
    obtain ⟨rfl, -⟩ := List.cons.inj ht'
    rw [skipSpaces_blank_cons hw hc.not_space]
    cases o with
    | none =>
      obtain rfl : c = 'n' := hc
      generalize hx : 'n' :: (r ++ q) = x at ht
      cases ht with
      | null =>
        obtain ⟨-, hr⟩ := List.cons.inj hx
        exact .inl ((readKeyword_cut hr.symm hq).map _)
    | some a =>
      split
      · next h' =>
        rw [(List.cons.inj h').1] at hc
        exact absurd hc.eq_null (hnull a)
      · obtain hended | ⟨hnumber, b, hb⟩ :=
          h.misses (ho a rfl) hd (p := c :: r) blank_nil ht rfl hq
        · exact .inl (hended.map _)
        · exact .inr ⟨hnumber, some b, by rw [hb]; rfl⟩
  lands := by
    intro room hroom s o s' hs
    dsimp only [Format.optional] at hs
    split at hs
    · obtain ⟨r, -, hr⟩ := map_eq_ok_iff.mp hs
      cases hr
      exact ⟨nofun, Nat.zero_le _⟩
    · obtain ⟨⟨a, t⟩, ha, hr⟩ := map_eq_ok_iff.mp hs
      cases hr
      obtain ⟨hgood, hd⟩ := h.lands hroom ha
      exact ⟨fun b hb => Option.some.inj hb ▸ hgood, hd⟩

theorem Format.Faithful.list {item : Format α} {good : α → Prop} {least : Nat}
    (h : item.Faithful good least) :
    (Format.list item).Faithful (fun as => ∀ a ∈ as, good a) (least + 1) where
  written as := by
    refine written_array fun j hj => ?_
    obtain ⟨a, -, rfl⟩ := List.mem_map.mp hj
    exact h.written a
  takes := by
    intro room as has hd
    obtain ⟨room, rfl, hdepths⟩ := room_of_depth_array hd
    refine list_takes (List.forall₂_map_left_iff.mpr (List.forall₂_same.mpr fun a ha => ?_))
    exact h.takes (has a ha) (hdepths _ (List.mem_map_of_mem ha))
  blank := fun _ _ hw => afterSpaces_blank hw
  misses := by
    intro room as has hd
    obtain ⟨room, rfl, hdepths⟩ := room_of_depth_array hd
    have hitems : List.Forall₂ (Reads (item.read room)) (as.map item.tree) as := by
      refine List.forall₂_map_left_iff.mpr (List.forall₂_same.mpr fun a ha => ?_)
      have hda := hdepths _ (List.mem_map_of_mem ha)
      exact ⟨h.takes (has a ha) hda, h.misses (has a ha) hda⟩
    refine afterSpaces_misses fun c r q ht hq => .inl ?_
    obtain ⟨c', t', ht', rfl⟩ := ht.opens
    obtain ⟨rfl, -⟩ := List.cons.inj ht'
    exact (readItems_cut hitems ht rfl hq).enclosed
  lands := by
    intro room hroom
    obtain ⟨room, rfl⟩ : ∃ r, room = r + 1 := ⟨room - 1, by omega⟩
    have hlist : Gives (inList (readItems (item.read room) true)) fun as =>
        ∀ a ∈ as, good a ∧ (item.tree a).depth ≤ room :=
      ((h.lands (Nat.le_of_succ_le_succ hroom)).readItems true).enclosed
    refine Gives.afterSpaces fun s as s' hs => ?_
    split at hs
    · cases hs
    · next hr =>
      cases hr
      have has := hlist hs
      refine ⟨fun a ha => (has a ha).1, depth_array_le.mpr fun j hj => ?_⟩
      obtain ⟨a, ha, rfl⟩ := List.mem_map.mp hj
      exact (has a ha).2
    · exact absurd hs wrongType_ne_ok

end SubscriberContract.Json
