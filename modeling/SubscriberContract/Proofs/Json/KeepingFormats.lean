import SubscriberContract.Proofs.Json.Keeping
import SubscriberContract.Proofs.Json.Tagged

/-!
# Formats that keep to the text

Every format keeps to the text. If a record is read from an object at all, the object presents the
values, so it has no member of the record twice. A tagged union that is read from a text is split
and built from a tree of that text.
-/

namespace SubscriberContract.Json

variable {α σ ρ : Type} {w t s s' : Input} {Q : Json → Prop}

theorem afterSpaces_keeps {read : Reader α} {R : Json → α → Prop}
    (h : ∀ ⦃c t s s' j a⦄, Written .loose j (c :: t) → Opens j c → Follows j s →
      read (c :: (t ++ s)) = .ok (a, s') → s' = s ∧ R j a) : Keeps (afterSpaces read) R := by
  intro w t s s' j a hw ht hs hr
  rw [afterSpaces_written hw ht] at hr
  obtain ⟨c, t', rfl, hc⟩ := ht.opens
  exact h ht hc hs hr

/-! ## Words, texts and choices -/

theorem Opens.eq_text {j : Json} (h : Opens j '"') : ∃ s, j = .text s := by
  match j, h with
  | .text s, _ => exact ⟨s, rfl⟩
  | .boolean true, h | .boolean false, h => simp [Opens] at h
  | .null, h | .number _, h | .array _, h | .object _, h => simp [Opens, isDigit] at h

/-- What begins with a digit is a number. -/
theorem Written.of_digit {j : Json} {c : Char} (ht : Written .loose j (c :: t))
    (hc : isDigit c = true) : (∃ n, j = .number n) ∧ Unsigned (c :: t) := by
  generalize hx : c :: t = x at ht
  cases ht with
  | number ht =>
    obtain hu | ⟨t', rfl, -⟩ := ht.unsigned
    · exact ⟨⟨_, rfl⟩, hu⟩
    · obtain ⟨rfl, -⟩ := List.cons.inj hx
      exact absurd hc (by decide)
  | _ =>
    obtain ⟨rfl, -⟩ := List.cons.inj hx
    exact absurd hc (by decide)

/-- What begins with a minus sign is a number. -/
theorem Written.of_minus {j : Json} (ht : Written .loose j ('-' :: t)) :
    (∃ n, j = .number n) ∧ Unsigned t := by
  generalize hx : '-' :: t = x at ht
  cases ht with
  | number ht =>
    obtain hu | ⟨t', rfl, hu⟩ := ht.unsigned
    · obtain ⟨c, t', rfl, hc⟩ := hu.exists_cons
      obtain ⟨rfl, -⟩ := List.cons.inj hx
      exact absurd hc (by decide)
    · obtain ⟨-, rfl⟩ := List.cons.inj hx
      exact ⟨⟨_, rfl⟩, hu⟩
  | _ => cases hx

theorem readParsed_keeps (expected : String) (parse : String → Except Mismatch α) :
    Keeps (Format.readParsed expected parse) fun j a =>
      ∃ name, j = .text name ∧ parse name = .ok a := by
  refine afterSpaces_keeps fun c t s s' j a ht hc hs hr => ?_
  split at hr
  · next h =>
    obtain ⟨rfl, rfl⟩ := List.cons.inj h
    obtain ⟨name, rfl⟩ := hc.eq_text
    generalize hx : '"' :: t = x at ht
    cases ht with
    | text ht =>
      obtain ⟨-, rfl⟩ := List.cons.inj hx
      rw [List.append_assoc, List.singleton_append] at hr
      split at hr
      · cases hr
      next hname =>
      obtain ⟨rfl, rfl⟩ := readText_keeps ht hname
      split at hr
      · cases hr
      next ha =>
      cases hr
      exact ⟨rfl, _, rfl, ha⟩
  · exact absurd hr wrongType_ne_ok

theorem readWordOf_keeps {negative : Bool} {a : UInt32} (ht : Unsigned t) (hs : Ends s)
    (hr : Format.readWordOf negative (t ++ s) = .ok (a, s')) : s' = s := by
  unfold Format.readWordOf at hr
  split at hr
  · cases hr
  next hn =>
  split at hr
  · cases hr
  cases hr
  exact readNumeral_keeps ht hs hn

theorem word_keeps (room : Nat) : Keeps (Format.word.read room) fun _ _ => True := by
  refine afterSpaces_keeps fun c t s s' j a ht hc hs hr => ⟨?_, trivial⟩
  split at hr
  · next h =>
    obtain ⟨rfl, rfl⟩ := List.cons.inj h
    obtain ⟨⟨n, rfl⟩, hu⟩ := ht.of_minus
    exact readWordOf_keeps hu hs hr
  · next h => cases h
  · next h =>
    obtain ⟨rfl, rfl⟩ := List.cons.inj h
    split at hr
    · next hdigit =>
      obtain ⟨⟨n, rfl⟩, hu⟩ := ht.of_digit hdigit
      exact readWordOf_keeps hu hs hr
    · exact absurd hr wrongType_ne_ok

theorem text_keeps (room : Nat) : Keeps (Format.text.read room) fun _ _ => True :=
  (readParsed_keeps "a string" .ok).mono fun _ _ _ => trivial

theorem readNull_keeps : Keeps Format.readNull fun _ _ => True := by
  refine afterSpaces_keeps fun c t s s' j a ht hc hs hr => ⟨?_, trivial⟩
  split at hr
  · next h =>
    obtain ⟨rfl, rfl⟩ := List.cons.inj h
    obtain rfl := hc.eq_null
    cases ht
    cases hr
    rfl
  · exact absurd hr wrongType_ne_ok

theorem quoted_append (t s : Input) :
    '"' :: (t ++ '"' :: s) = [] ++ ('"' :: (t ++ ['"']) ++ s) := by
  simp

theorem readKeyed_keeps {all : List α} {name : α → String} {members : List (String × Json)} {a : α}
    (ht : Written .loose (.object members) ('\x7b' :: t))
    (hr : Format.readKeyed all name (t ++ s) = .ok (a, s')) : s' = s := by
  unfold Format.readKeyed at hr
  cases ht with
  | emptyObject hw =>
    rw [List.append_assoc, List.singleton_append, skipSpaces_blank_cons hw (by decide)] at hr
    cases hr
  | object hw hj hu =>
    cases hj with
    | mk hn hw₁ hw₂ hj =>
      simp only [List.append_assoc, List.cons_append] at hr
      rw [skipSpaces_blank_cons hw (by decide)] at hr
      split at hr
      · next h => cases h
      · next h =>
        obtain ⟨-, rfl⟩ := List.cons.inj h
        split at hr
        · cases hr
        next hkey =>
        rw [quoted_append] at hkey
        obtain ⟨rfl, -⟩ := readParsed_keeps _ _ blank_nil (Written.text hn) trivial hkey
        obtain ⟨s₁, hcolon, hr⟩ := bind_eq_ok_iff.mp hr
        rw [readColon_blank hw₁] at hcolon
        cases hcolon
        obtain ⟨⟨⟨⟩, s₂⟩, hnull, hr⟩ := bind_eq_ok_iff.mp hr
        obtain ⟨rfl, -⟩ := readNull_keeps hw₂ hj (follows_of_ends (hu.ends s) _) hnull
        dsimp only at hr
        cases hu with
        | close hw₃ =>
          rw [List.append_assoc, List.singleton_append, skipSpaces_blank_cons hw₃ (by decide)] at hr
          cases hr
          rfl
        | next hw₃ =>
          rw [List.append_assoc, List.cons_append, skipSpaces_blank_cons hw₃ (by decide)] at hr
          cases hr
      · next h => cases h
      · next h _ => exact absurd rfl (h _)

theorem choice_keeps (all : List α) (name : α → String) (room : Nat) :
    Keeps ((Format.choice all name).read room) fun _ _ => True := by
  refine afterSpaces_keeps fun c t s s' j a ht hc hs hr => ⟨?_, trivial⟩
  split at hr
  · cases hr
  · next h =>
    obtain ⟨rfl, rfl⟩ := List.cons.inj h
    obtain ⟨members, rfl⟩ := hc.eq_object
    exact readKeyed_keeps ht hr
  · next h =>
    obtain ⟨rfl, rfl⟩ := List.cons.inj h
    exact (readParsed_keeps _ _ blank_nil ht hs hr).1
  · cases hr

/-! ## Options and lists -/

theorem optional_keeps {item : Format α} {room : Nat}
    (h : Keeps (item.read room) fun j _ => Q j) (hnull : Q .null) :
    Keeps ((Format.optional item).read room) fun j _ => Q j := by
  intro w t s s' j o hw ht hs hr
  have hitem : ∀ a, item.read room (t ++ s) = .ok (a, s') → s' = s ∧ Q j := fun _ =>
    h blank_nil ht hs
  obtain ⟨c, t', rfl, hc⟩ := ht.opens
  dsimp only [Format.optional] at hr
  rw [List.cons_append, skipSpaces_blank_cons hw hc.not_space] at hr
  split at hr
  · next h' =>
    obtain ⟨rfl, rfl⟩ := List.cons.inj h'
    obtain rfl := hc.eq_null
    cases ht
    cases hr
    exact ⟨rfl, hnull⟩
  · obtain ⟨⟨a, s''⟩, ha, hr⟩ := map_eq_ok_iff.mp hr
    cases hr
    exact hitem a ha

theorem forall_mem_of_forall₂ {js : List Json} {as : List α}
    (h : List.Forall₂ (fun j _ => Q j) js as) : ∀ j ∈ js, Q j := by
  induction h with
  | nil => exact nofun
  | cons hj _ ih => exact List.forall_mem_cons.mpr ⟨hj, ih⟩

theorem list_keeps {item : Format α} (h : ∀ room, Keeps (item.read room) fun j _ => Q j)
    (room : Nat) :
    Keeps ((Format.list item).read room) fun j _ => ∀ js, j = .array js → ∀ i ∈ js, Q i := by
  refine afterSpaces_keeps fun c t s s' j as ht hc hs hr => ?_
  split at hr
  · cases hr
  · next h' =>
    obtain ⟨rfl, rfl⟩ := List.cons.inj h'
    obtain ⟨items, rfl⟩ := hc.eq_array
    refine (inList_keeps (h _) ht hr).imp_right fun has js hjs => ?_
    cases hjs
    exact forall_mem_of_forall₂ has
  · exact absurd hr wrongType_ne_ok

/-! ## Records -/

namespace Members

variable {P : ∀ ⦃α : Type⦄, String → Format α → Json → α → Prop}

theorem put_keeps {ms : Members Format σ ρ} {room : Nat}
    (h : ms.All fun _ name f => Keeps (f.read room) (P name f)) (read : ρ) (key : String) :
    KeepsAfterName (ms.put room key read) fun j read' => ms.Puts P read key j read' := by
  intro w w' t s s' j read' hw hw' ht hs hr
  induction ms with
  | done =>
    rw [put, readColon_blank hw] at hr
    dsimp only at hr
    rw [skipValue_written hw' ht hs] at hr
    cases hr
    exact ⟨rfl, trivial⟩
  | member name format absent short rest ih =>
    obtain ⟨r, others⟩ := read
    obtain ⟨r', others'⟩ := read'
    show s' = s ∧ (member name format absent short rest).Puts P (r, others) key j (r', others')
    rw [put] at hr
    rw [Puts]
    split at hr
    · next hk =>
      split at hr
      · cases hr
      next hread =>
      rw [readColon_blank hw] at hr
      obtain ⟨⟨a, s''⟩, ha, hr⟩ := map_eq_ok_iff.mp hr
      cases hr
      rw [if_pos hk]
      exact (h.1 hw' ht hs ha).imp_right fun hP =>
        ⟨Option.not_isSome_iff_eq_none.mp hread, rfl, a, hP, rfl⟩
    · next hk =>
      obtain ⟨⟨others', s''⟩, hothers, hr⟩ := map_eq_ok_iff.mp hr
      cases hr
      rw [if_neg hk]
      exact (ih h.2 others hothers).imp_right fun hputs => ⟨rfl, hputs⟩

/-- An object from which the values of a record are read presents them. -/
theorem readObject_keeps {ms : Members Format σ ρ} {room : Nat}
    (h : ms.All fun _ name f => Keeps (f.read room) (P name f)) {members : List (String × Json)}
    (ht : Written .loose (.object members) ('\x7b' :: t)) {v : σ}
    (hr : inObject (ms.readObject room) (t ++ s) = .ok (v, s')) :
    s' = s ∧ ms.Presents P v members := by
  refine inObject_keeps hr fun u hu => ?_
  rw [readObject] at hu
  split at hu
  · cases hu
  next read _ hread =>
  split at hu
  · cases hu
  next hcomplete =>
  cases hu
  exact (readMembers_keeps (fun read key => put_keeps h read key) ht hread).imp_right fun hruns =>
    exists_runs_iff_presents.mp ⟨read, hruns, hcomplete⟩

theorem closeList_eq_ok (hw : Blank w) {c : Char} (hc : isSpace c = false)
    (h : closeList (w ++ c :: s) = .ok s') : c = ']' ∧ s' = s := by
  rw [closeList, skipSpaces_blank_cons hw hc] at h
  split at h
  · cases h
  · next h' =>
    obtain ⟨rfl, rfl⟩ := List.cons.inj h'
    cases h
    exact ⟨rfl, rfl⟩
  · split at h <;> cases h
  · cases h

/-- Behind the first item. -/
theorem readInOrder_keeps_rest {ms : Members Format σ ρ} {expected : String} {room index : Nat}
    (h : ms.All fun _ name f => Keeps (f.read room) (P name f)) {items : List Json} {u s₁ : Input}
    (hu : WrittenItems .loose items u) {v : σ}
    (hr : ms.readInOrder expected room (index + 1) (u ++ s) = .ok (v, s₁))
    (hclose : closeList s₁ = .ok s') : s' = s := by
  induction ms generalizing index items u with
  | done =>
    cases hr
    cases hu with
    | close hw =>
      rw [List.append_assoc] at hclose
      exact (closeList_eq_ok hw (by decide) hclose).2
    | next hw =>
      rw [List.append_assoc, List.cons_append] at hclose
      exact absurd (closeList_eq_ok hw (by decide) hclose).1 (by decide)
  | member name format absent short rest ih =>
    unfold readInOrder at hr
    rw [decide_eq_false (Nat.succ_ne_zero index)] at hr
    cases hu with
    | close hw =>
      rw [List.append_assoc, List.singleton_append, nextItem?_close hw] at hr
      dsimp only at hr
      split at hr
      · cases hr
      obtain ⟨⟨values, s₂⟩, hvalues, hr⟩ := map_eq_ok_iff.mp hr
      cases hr
      rw [← List.singleton_append, ← List.append_assoc] at hvalues
      exact ih h.2 (.close hw) hvalues
    | next hw hw' hj hu =>
      rw [List.append_assoc, List.cons_append, List.append_assoc, List.append_assoc,
        nextItem?_next hw hw' hj] at hr
      dsimp only at hr
      split at hr
      · cases hr
      next ha =>
      obtain ⟨rfl, -⟩ := h.1 blank_nil hj (follows_of_ends (hu.ends s) _) ha
      obtain ⟨⟨values, s₂⟩, hvalues, hr⟩ := map_eq_ok_iff.mp hr
      cases hr
      exact ih h.2 hu hvalues

theorem readInOrder_keeps {ms : Members Format σ ρ} {expected : String} {room : Nat}
    (h : ms.All fun _ name f => Keeps (f.read room) (P name f)) {items : List Json}
    (ht : Written .loose (.array items) ('[' :: t)) {v : σ}
    (hr : inList (ms.readInOrder expected room 0) (t ++ s) = .ok (v, s')) : s' = s := by
  obtain ⟨s₁, hr, hclose⟩ := enclosed_eq_ok_iff.mp hr
  cases ms with
  | done =>
    cases hr
    cases ht with
    | emptyArray hw =>
      rw [List.append_assoc] at hclose
      exact (closeList_eq_ok hw (by decide) hclose).2
    | array hw hj hu =>
      obtain ⟨c, t', rfl, hc⟩ := hj.opens
      rw [List.append_assoc, List.append_assoc, List.cons_append] at hclose
      exact absurd (closeList_eq_ok hw hc.not_space hclose).1 hc.ne_close
  | member name format absent short rest =>
    unfold readInOrder at hr
    rw [decide_eq_true rfl] at hr
    cases ht with
    | emptyArray hw =>
      rw [List.append_assoc, List.singleton_append, nextItem?_close hw] at hr
      dsimp only at hr
      split at hr
      · cases hr
      obtain ⟨⟨values, s₂⟩, hvalues, hr⟩ := map_eq_ok_iff.mp hr
      cases hr
      rw [← List.singleton_append, ← List.append_assoc] at hvalues
      exact readInOrder_keeps_rest h.2 (.close hw) hvalues hclose
    | array hw hj hu =>
      rw [List.append_assoc, List.append_assoc, nextItem?_first hw hj] at hr
      dsimp only at hr
      split at hr
      · cases hr
      next ha =>
      obtain ⟨rfl, -⟩ := h.1 blank_nil hj (follows_of_ends (hu.ends s) _) ha
      obtain ⟨⟨values, s₂⟩, hvalues, hr⟩ := map_eq_ok_iff.mp hr
      cases hr
      exact readInOrder_keeps_rest h.2 hu hvalues hclose

end Members

theorem record_keeps {ms : Members Format σ ρ}
    {P : ∀ ⦃α : Type⦄, String → Format α → Json → α → Prop}
    (h : ∀ room, ms.All fun _ name f => Keeps (f.read room) (P name f)) (title : String)
    (build : σ → α) (values : α → σ) (room : Nat) :
    Keeps ((Format.record title ms build values).read room) fun j _ =>
      ∀ members, j = .object members → ∃ v, ms.Presents P v members := by
  refine afterSpaces_keeps fun c t s s' j a ht hc hs hr => ?_
  obtain ⟨⟨v, s''⟩, hv, hr⟩ := map_eq_ok_iff.mp hr
  cases hr
  split at hv
  · cases hv
  · cases hv
  · next h' =>
    obtain ⟨rfl, rfl⟩ := List.cons.inj h'
    obtain ⟨items, rfl⟩ := hc.eq_array
    exact ⟨Members.readInOrder_keeps (h _) ht hv, nofun⟩
  · next h' =>
    obtain ⟨rfl, rfl⟩ := List.cons.inj h'
    obtain ⟨members, rfl⟩ := hc.eq_object
    refine (Members.readObject_keeps (h _) ht hv).imp_right fun hpresents members hm => ?_
    cases hm
    exact ⟨v, hpresents⟩
  · exact absurd hv wrongType_ne_ok

/-! ## Tagged unions -/

namespace Tagged

variable {u : Tagged α}

theorem eq_of_variant {x t : String} (h : u.variant x = .ok t) : t = x := Format.name_of_variant h

theorem splitMembers_cons_ne {name : String} (h : name ≠ u.tag) (tag : Option String) (j : Json)
    (members : List (String × Json)) : u.splitMembers tag ((name, j) :: members) =
      (u.splitMembers tag members).map fun (t, others) => (t, (name, j) :: others) := by
  cases tag <;> rw [splitMembers, if_neg h] <;> cases u.splitMembers _ members <;> rfl

theorem splitMembers_some_eq_ok {members others : List (String × Json)} {t t' : String}
    (h : u.splitMembers (some t) members = .ok (t', others)) :
    t' = t ∧ others = besides u.tag members ∧ valuesOf u.tag members = [] := by
  induction members generalizing others with
  | nil =>
    cases h
    exact ⟨rfl, rfl, rfl⟩
  | cons m members ih =>
    obtain ⟨name, j⟩ := m
    by_cases hname : name = u.tag
    · rw [splitMembers, if_pos hname] at h
      cases h
    · rw [splitMembers_cons_ne hname] at h
      obtain ⟨⟨t'', others'⟩, hothers, hr⟩ := map_eq_ok_iff.mp h
      cases hr
      rw [besides_cons_ne hname, valuesOf_cons_ne hname]
      obtain ⟨ht, hrest, hvalues⟩ := ih hothers
      exact ⟨ht, by rw [hrest], hvalues⟩

/-- An object that is split has its tag once. -/
theorem splitMembers_none_eq_ok {members others : List (String × Json)} {t : String}
    (h : u.splitMembers none members = .ok (t, others)) :
    others = besides u.tag members ∧ ∃ j, valuesOf u.tag members = [j] ∧ u.tagOf j = .ok t := by
  induction members generalizing others with
  | nil => cases h
  | cons m members ih =>
    obtain ⟨name, j⟩ := m
    by_cases hname : name = u.tag
    · subst hname
      rw [splitMembers, if_pos rfl] at h
      obtain ⟨t', ht', h⟩ := bind_eq_ok_iff.mp h
      obtain ⟨rfl, rfl, hvalues⟩ := splitMembers_some_eq_ok h
      rw [besides_cons_self, valuesOf_cons_self, hvalues]
      exact ⟨rfl, j, rfl, ht'⟩
    · rw [splitMembers_cons_ne hname] at h
      obtain ⟨⟨t', others'⟩, hothers, hr⟩ := map_eq_ok_iff.mp h
      cases hr
      rw [besides_cons_ne hname, valuesOf_cons_ne hname]
      obtain ⟨hrest, hvalues⟩ := ih hothers
      exact ⟨by rw [hrest], hvalues⟩

/-- What reading one member of the object does to the tag and to the members that are kept. -/
def Splits (u : Tagged α) (state : Option String × List (String × Json)) (name : String) (j : Json)
    (state' : Option String × List (String × Json)) : Prop :=
  if name = u.tag then
    state.1 = none ∧ state'.2 = state.2 ∧
      ∃ x t, j = .text x ∧ u.variant x = .ok t ∧ state'.1 = some t
  else state'.1 = state.1 ∧ ∃ j', Alike j j' ∧ state'.2 = (name, j') :: state.2

theorem readMember_keeps (u : Tagged α) (room : Nat)
    (state : Option String × List (String × Json)) (name : String) :
    KeepsAfterName (u.readMember room name state) fun j state' => u.Splits state name j state' := by
  intro w w' t s s' j state' hw hw' ht hs hr
  rw [readMember] at hr
  show s' = s ∧ u.Splits state name j state'
  rw [Splits]
  split at hr
  · next hname =>
    split at hr
    · cases hr
    next hstate =>
    rw [readColon_blank hw] at hr
    obtain ⟨⟨tag, s''⟩, htag, hr⟩ := map_eq_ok_iff.mp hr
    cases hr
    rw [if_pos hname]
    refine (readParsed_keeps _ _ hw' ht hs htag).imp_right ?_
    rintro ⟨x, rfl, hx⟩
    exact ⟨Option.not_isSome_iff_eq_none.mp hstate, rfl, x, tag, rfl, hx, rfl⟩
  · next hname =>
    obtain ⟨⟨kept, s''⟩, hkept, hr⟩ := map_eq_ok_iff.mp hr
    cases hr
    rw [if_neg hname]
    exact (readTreeMember_keeps (readTree_keeps room) name state.2 hw hw' ht hs hkept).imp_right
      fun h => ⟨rfl, h⟩

/-- A run that finds the tag splits members that are alike. -/
theorem splitMembers_of_runs {state : Option String × List (String × Json)} {t : String}
    {members kept : List (String × Json)} (h : Runs u.Splits state members (some t, kept)) :
    ∃ members' others, AlikeMembers members members' ∧
      u.splitMembers state.1 members' = .ok (t, others) ∧ kept = others.reverse ++ state.2 := by
  generalize hend : (some t, kept) = last at h
  induction h with
  | done =>
    subst hend
    exact ⟨[], [], .nil, rfl, rfl⟩
  | @step state next _ name j members h _ ih =>
    obtain ⟨members', others, halike, hsplit, hkept⟩ := ih hend
    rw [Splits] at h
    split at h
    · next hname =>
      subst hname
      obtain ⟨hstate, hsame, x, t', rfl, hx, hnext⟩ := h
      refine ⟨(u.tag, .text x) :: members', others, .cons (.text x) halike, ?_, hsame ▸ hkept⟩
      rw [hnext] at hsplit
      rw [hstate, splitMembers, if_pos rfl]
      exact bind_eq_ok_iff.mpr ⟨t', hx, hsplit⟩
    · next hname =>
      obtain ⟨hstate, j', hj, hnext⟩ := h
      refine ⟨(name, j') :: members', (name, j') :: others, .cons hj halike, ?_, ?_⟩
      · rw [hstate] at hsplit
        rw [splitMembers_cons_ne hname, hsplit]
        rfl
      · rw [hkept, hnext, List.reverse_cons, List.append_assoc]
        rfl

theorem readArray_keeps {room : Nat} {items : List Json} {r : String × Json}
    (ht : Written .loose (.array items) ('[' :: t))
    (hr : inList (u.readArray room) (t ++ s) = .ok (r, s')) :
    s' = s ∧ ∃ j', Alike (.array items) j' ∧ u.split j' = .ok r := by
  obtain ⟨s₁, hr, hclose⟩ := enclosed_eq_ok_iff.mp hr
  rw [readArray] at hr
  cases ht with
  | emptyArray hw =>
    rw [List.append_assoc, List.singleton_append, nextItem?_close hw] at hr
    cases hr
  | array hw hj hu =>
    rw [List.append_assoc, List.append_assoc, nextItem?_first hw hj] at hr
    dsimp only at hr
    split at hr
    · cases hr
    next tag _ htag =>
    obtain ⟨rfl, x, rfl, hx⟩ :=
      readParsed_keeps _ _ blank_nil hj (follows_of_ends (hu.ends s) _) htag
    obtain ⟨⟨items', s₂⟩, hitems, hr⟩ := map_eq_ok_iff.mp hr
    cases hr
    obtain ⟨rfl, halike⟩ := readItemsIn_keeps (readTree_keeps room) hu hitems
    rw [closeList_bracket] at hclose
    refine ⟨(Except.ok.inj hclose).symm, .array (.text x :: items'), ?_, ?_⟩
    · exact .array (.cons (.text x) (alikeItems_of_forall₂ halike))
    · exact bind_eq_ok_iff.mpr ⟨tag, hx, rfl⟩

theorem readObject_keeps {room : Nat} {members : List (String × Json)} {r : String × Json}
    (ht : Written .loose (.object members) ('\x7b' :: t))
    (hr : inObject (u.readObject room) (t ++ s) = .ok (r, s')) :
    s' = s ∧ ∃ j', Alike (.object members) j' ∧ u.split j' = .ok r := by
  refine inObject_keeps hr fun v hv => ?_
  rw [readObject] at hv
  split at hv
  · cases hv
  · cases hv
  next variant kept _ hkept =>
  cases hv
  refine (readMembers_keeps (readMember_keeps u room) ht hkept).imp_right fun hruns => ?_
  obtain ⟨members', others, halike, hsplit, rfl⟩ := splitMembers_of_runs hruns
  refine ⟨.object members', .object halike, bind_eq_ok_iff.mpr ⟨_, hsplit, ?_⟩⟩
  rw [List.append_nil, List.reverse_reverse]
  rfl

/-- What is read of a tagged union is split from a tree that is alike. -/
theorem readSplit_keeps (u : Tagged α) (room : Nat) :
    Keeps (u.readSplit room) fun j r => ∃ j', Alike j j' ∧ u.split j' = .ok r := by
  refine afterSpaces_keeps fun c t s s' j r ht hc hs hr => ?_
  split at hr
  · cases hr
  · cases hr
  · next h' =>
    obtain ⟨rfl, rfl⟩ := List.cons.inj h'
    obtain ⟨items, rfl⟩ := hc.eq_array
    exact readArray_keeps ht hr
  · next h' =>
    obtain ⟨rfl, rfl⟩ := List.cons.inj h'
    obtain ⟨members, rfl⟩ := hc.eq_object
    exact readObject_keeps ht hr
  · split at hr <;> cases hr

theorem format_keeps (u : Tagged α) (tree : α → Json) (room : Nat) :
    Keeps ((u.format tree).read room) fun j a =>
      ∃ j' t beside, Alike j j' ∧ u.split j' = .ok (t, beside) ∧ u.build t beside = .ok a := by
  intro w t s s' j a hw ht hs hr
  dsimp only [format] at hr
  split at hr
  · cases hr
  next variant beside _ hsplit =>
  split at hr
  · cases hr
  next hbuild =>
  cases hr
  refine (readSplit_keeps u room hw ht hs hsplit).imp_right ?_
  rintro ⟨j', halike, hj'⟩
  exact ⟨j', variant, beside, halike, hj', hbuild⟩

end Tagged
end SubscriberContract.Json
