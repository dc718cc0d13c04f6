import SubscriberContract.Proofs.Json.Taking
import SubscriberContract.Proofs.Outcome

/-!
# Texts that end too early

Each proper beginning of a text lacks something, and the reader of the text says so: the fault is
that the text ended, never that it is malformed or does not fit. Only a number may pass for a
shorter one. Nothing is left of the text then, so whatever stands around the number misses its own
end. The loops over items and members rest on this, and so they have no exception.
-/

namespace SubscriberContract.Json

variable {α β σ : Type}

/-- The fault is that the text ended too early. -/
def Ended (r : Except Failure α) : Prop := ∃ f, r = .error f ∧ f.fault.category = .ended

/-- The reader finds every exact text of the tree ended too early that is cut, or takes a number
for a shorter one. -/
def Misses (read : Reader α) (j : Json) : Prop :=
  ∀ ⦃w t p q : Input⦄, Blank w → Written .exact j t → w ++ t = p ++ q → q ≠ [] →
    Ended (read p) ∨ (∃ n, j = .number n) ∧ ∃ a, read p = .ok (a, [])

/-- The reader starts in front of the colon between a name and its value. -/
def MissesAfterName (read : Reader α) (j : Json) : Prop :=
  ∀ ⦃w w' t p q : Input⦄, Blank w → Blank w' → Written .exact j t →
    w ++ ':' :: (w' ++ t) = p ++ q → q ≠ [] → Ended (read p) ∨ ∃ a, read p = .ok (a, [])

/-- The steps of a reader of members take the members one after the other, and each misses the end
of its own. -/
inductive Walk (member : String → σ → Reader σ) : σ → List (String × Json) → Prop
  | done {a : σ} : Walk member a []
  | step {a b : σ} {name : String} {j : Json} {members : List (String × Json)}
      (ht : TakesAfterName (member name a) j b) (hm : MissesAfterName (member name a) j)
      (hs : Walk member b members) : Walk member a ((name, j) :: members)

theorem ended_cut (region : Region) : Ended (cut region : Except Failure α) := ⟨_, rfl, rfl⟩

theorem Ended.map {r : Except Failure α} (h : Ended r) (f : α → β) : Ended (r.map f) := by
  obtain ⟨e, rfl, he⟩ := h
  exact ⟨e, rfl, he⟩

/-! ## Where a text is cut -/

/-- A text of two parts is cut inside the first, or not before its end. -/
theorem cut_append {u v p q : Input} (h : u ++ v = p ++ q) :
    (∃ r, u = p ++ r ∧ r ≠ []) ∨ ∃ r, p = u ++ r ∧ v = r ++ q := by
  obtain ⟨r, hp, hv⟩ | ⟨r, hu, hq⟩ := List.append_eq_append_iff.mp h
  · exact .inr ⟨r, hp, hv⟩
  · by_cases hr : r = []
    · subst hr
      exact .inr ⟨[], by rw [hu, List.append_nil, List.append_nil], hq.symm⟩
    · exact .inl ⟨r, hu, hr⟩

/-- A text after white space is cut inside the white space, or behind the first character. -/
theorem cut_blank {w v p q : Input} (hw : Blank w) (h : w ++ v = p ++ q) :
    Blank p ∨ ∃ c r, p = w ++ c :: r ∧ v = c :: (r ++ q) := by
  obtain ⟨r, rfl, -⟩ | ⟨r, rfl, hv⟩ := cut_append h
  · exact .inl fun c hc => hw c (List.mem_append_left r hc)
  · cases r with
    | nil => exact .inl (by rwa [List.append_nil])
    | cons c r => exact .inr ⟨c, r, rfl, hv⟩

/-- White space is all that stands in front of the last character. -/
theorem blank_of_cut_close {w p q : Input} (hw : Blank w) {c : Char} (h : w ++ [c] = p ++ q)
    (hq : q ≠ []) : Blank p := by
  obtain hp | ⟨d, r, -, hv⟩ := cut_blank hw h
  · exact hp
  · obtain ⟨-, hr⟩ := List.cons.inj hv
    exact absurd (List.append_eq_nil_iff.mp hr.symm).2 hq

theorem skipSpaces_blank {w : Input} (hw : Blank w) : skipSpaces w = [] := by
  rw [← List.append_nil w, skipSpaces_blank_append hw]
  rfl

theorem Ends.of_append {p q : Input} (h : Ends (p ++ q)) : Ends p := by
  cases p with
  | nil => exact ends_nil
  | cons c p => exact h

/-! ## Keywords and numbers -/

theorem readKeyword_cut {keyword p q : Input} (h : keyword = p ++ q) (hq : q ≠ []) :
    Ended (readKeyword keyword p) := by
  induction keyword generalizing p with
  | nil => exact absurd (List.append_eq_nil_iff.mp h.symm).2 hq
  | cons k ks ih =>
    cases p with
    | nil => exact ended_cut _
    | cons c p =>
      obtain ⟨rfl, hks⟩ := List.cons.inj h
      rw [readKeyword, if_pos rfl]
      exact ih hks

/-- The beginning of a natural is that of a smaller one. -/
theorem readNumeral_cut {n : Nat} (hn : n < UInt64.size) (negative : Bool) {p q : Input}
    (h : Nat.toDigits 10 n = p ++ q) (hp : p ≠ []) :
    ∃ m ≤ n, readNumeral negative p = .ok (if negative then .minus m else .natural m, []) := by
  have hdigits : Digits p :=
    ⟨hp, fun c hc => isDigit_of_mem_toDigits (h ▸ List.mem_append_left q hc)⟩
  have hzero : p.head? = some '0' → p = ['0'] := by
    intro hhead
    obtain rfl : n = 0 := by
      by_contra hpos
      refine head?_toDigits (Nat.pos_of_ne_zero hpos) ?_
      rw [h, List.head?_append, hhead, Option.some_or]
    obtain ⟨c, r, rfl⟩ := List.exists_cons_of_ne_nil hp
    obtain ⟨rfl, hr⟩ := List.cons.inj (show ['0'] = c :: (r ++ q) from h)
    rw [(List.append_eq_nil_iff.mp hr.symm).1]
  have hvalue : Nat.ofDigitChars 10 p 0 ≤ n := by
    calc Nat.ofDigitChars 10 p 0 ≤ Nat.ofDigitChars 10 q (Nat.ofDigitChars 10 p 0) :=
          le_ofDigitChars q _
      _ = Nat.ofDigitChars 10 (Nat.toDigits 10 n) 0 := by
          rw [h, Nat.ofDigitChars, Nat.ofDigitChars, Nat.ofDigitChars, List.foldl_append]
      _ = n := Nat.ofDigitChars_ten_toDigits
  have hread := readNumeral_digits hdigits hzero (Nat.lt_of_le_of_lt hvalue hn) negative ends_nil
  rw [List.append_nil] at hread
  exact ⟨_, hvalue, hread⟩

/-! ## Strings -/

theorem utf8Size_of_hexValue? {c : Char} {n : Nat} (h : hexValue? c = some n) :
    c.utf8Size = 1 := by
  have hc : c ≤ 'f' := by
    unfold hexValue? at h
    split at h
    · next hc => exact Char.le_trans hc.2 (by decide)
    · split at h
      · next hc => exact hc.2
      · split at h
        · next hc => exact Char.le_trans hc.2 (by decide)
        · cases h
  exact Char.utf8Size_eq_one_iff.mpr (UInt32.le_trans hc (by decide))

theorem badHex_cut {s : Input} (h : Text.byteCount s < 4) :
    Ended (badHex s : Except Failure α) := by
  unfold badHex
  rw [if_pos h]
  exact ended_cut _

theorem byteCount_eq_length {s : Input} (h : ∀ c ∈ s, c.utf8Size = 1) :
    Text.byteCount s = s.length := by
  induction s with
  | nil => rfl
  | cons c s ih =>
    obtain ⟨hc, hs⟩ := List.forall_mem_cons.mp h
    show c.utf8Size + Text.byteCount s = s.length + 1
    rw [hc, ih hs, Nat.add_comm]

/-- Fewer than four hexadecimal digits are fewer than four bytes. -/
theorem byteCount_hex_cut {a b c d : Char} {n : Nat} (h : hexQuad? a b c d = some n) {p q : Input}
    (hp : [a, b, c, d] = p ++ q) (hq : q ≠ []) : p.length < 4 ∧ Text.byteCount p < 4 := by
  obtain ⟨⟨_, ha⟩, ⟨_, hb⟩, ⟨_, hc⟩, ⟨_, hd⟩⟩ := hexValues_of_hexQuad? h
  have hsize : ∀ x ∈ p ++ q, x.utf8Size = 1 := by
    rw [← hp]
    simp [utf8Size_of_hexValue? ha, utf8Size_of_hexValue? hb, utf8Size_of_hexValue? hc,
      utf8Size_of_hexValue? hd]
  have hlength : 4 = p.length + q.length := by
    rw [← List.length_append, ← hp]
    rfl
  have hlt : p.length < 4 := by
    have := List.length_pos_iff.mpr hq
    omega
  rw [byteCount_eq_length fun x hx => hsize x (List.mem_append_left q hx)]
  exact ⟨hlt, hlt⟩

/-- Without its four digits an escape is cut. -/
theorem readChars_unicode_cut {a b c d : Char} {n : Nat} (h : hexQuad? a b c d = some n)
    {p q : Input} (hp : [a, b, c, d] = p ++ q) (hq : q ≠ []) :
    Ended (readChars ('\\' :: 'u' :: p)) := by
  obtain ⟨hlength, hbytes⟩ := byteCount_hex_cut h hp hq
  have h : readChars ('\\' :: 'u' :: p) = badHex p := by
    match p, hlength with
    | [], _ | [_], _ | [_, _], _ | [_, _, _], _ => rfl
  rw [h]
  exact badHex_cut hbytes

/-- Behind a leading surrogate the second escape is cut as well. -/
theorem readChars_pair_cut {a b c d a' b' c' d' : Char} {n m : Nat}
    (hn : hexQuad? a b c d = some n) (hl : isLeading n = true)
    (hm : hexQuad? a' b' c' d' = some m) {p q : Input}
    (h : ['\\', 'u', a', b', c', d'] = p ++ q) (hq : q ≠ []) :
    Ended (readChars ('\\' :: 'u' :: a :: b :: c :: d :: p)) := by
  rw [readChars, hn]
  simp only [not_isTrailing_of_isLeading hl, hl]
  obtain ⟨rfl, -⟩ | ⟨p, rfl, h₁⟩ := List.cons_eq_append_iff.mp h
  · exact ended_cut _
  obtain ⟨rfl, -⟩ | ⟨p, rfl, h₂⟩ := List.cons_eq_append_iff.mp h₁
  · exact ended_cut _
  obtain ⟨hlength, hbytes⟩ := byteCount_hex_cut hm h₂ hq
  rcases p with _ | ⟨_, _ | ⟨_, _ | ⟨_, _ | ⟨_, p⟩⟩⟩⟩
  case cons.cons.cons.cons =>
    simp only [List.length_cons] at hlength
    omega
  all_goals exact badHex_cut hbytes

theorem readChars_writtenChar_cut {c : Char} {u p q : Input} (h : WrittenChar c u)
    (hu : u = p ++ q) (hq : q ≠ []) : Ended (readChars p) := by
  cases h with
  | plain =>
    obtain ⟨rfl, -⟩ | ⟨p, rfl, h⟩ := List.cons_eq_append_iff.mp hu
    · exact ended_cut _
    · exact absurd (List.append_eq_nil_iff.mp h.symm).2 hq
  | short =>
    obtain ⟨rfl, -⟩ | ⟨p, rfl, h₁⟩ := List.cons_eq_append_iff.mp hu
    · exact ended_cut _
    obtain ⟨rfl, -⟩ | ⟨p, rfl, h₂⟩ := List.cons_eq_append_iff.mp h₁
    · exact ended_cut _
    · exact absurd (List.append_eq_nil_iff.mp h₂.symm).2 hq
  | code hn =>
    obtain ⟨rfl, -⟩ | ⟨p, rfl, h₁⟩ := List.cons_eq_append_iff.mp hu
    · exact ended_cut _
    obtain ⟨rfl, -⟩ | ⟨p, rfl, h₂⟩ := List.cons_eq_append_iff.mp h₁
    · exact ended_cut _
    · exact readChars_unicode_cut hn h₂ hq
  | @pair a b c d _ _ _ _ _ _ hn hl hm =>
    obtain ⟨rfl, -⟩ | ⟨p, rfl, h₁⟩ := List.cons_eq_append_iff.mp hu
    · exact ended_cut _
    obtain ⟨rfl, -⟩ | ⟨p, rfl, h₂⟩ := List.cons_eq_append_iff.mp h₁
    · exact ended_cut _
    obtain ⟨r, hr, hne⟩ | ⟨p, rfl, h₃⟩ := cut_append (u := [a, b, c, d]) h₂
    · exact readChars_unicode_cut hn hr hne
    · exact readChars_pair_cut hn hl hm h₃ hq

/-- Without its closing quote a string is cut. -/
theorem readChars_cut {cs : List Char} {t p q : Input} (h : WrittenChars cs t)
    (ht : t ++ ['"'] = p ++ q) (hq : q ≠ []) : Ended (readChars p) := by
  induction h generalizing p with
  | nil =>
    obtain ⟨rfl, -⟩ | ⟨p, rfl, h⟩ := List.cons_eq_append_iff.mp ht
    · exact ended_cut _
    · exact absurd (List.append_eq_nil_iff.mp h.symm).2 hq
  | cons hc _ ih =>
    rw [List.append_assoc] at ht
    obtain ⟨r, hu, hr⟩ | ⟨p, rfl, htail⟩ := cut_append ht
    · exact readChars_writtenChar_cut hc hu hr
    · obtain ⟨f, hf, hended⟩ := ih htail
      rw [readChars_writtenChar hc, hf]
      exact ⟨f, rfl, hended⟩

theorem readText_cut {s : String} {t p q : Input} (h : WrittenText .exact s t)
    (ht : t ++ ['"'] = p ++ q) (hq : q ≠ []) : Ended (readText p) := by
  cases h with
  | text h => exact (readChars_cut h ht hq).map _

/-! ## Arrays -/

theorem nextItem?_blank {w : Input} (hw : Blank w) (first : Bool) :
    nextItem? first w = cut .list := by
  rw [nextItem?, skipSpaces_blank hw]

theorem nextItem?_comma_blank {w w' : Input} (hw : Blank w) (hw' : Blank w') :
    nextItem? false (w ++ ',' :: w') = cut .value := by
  rw [nextItem?, skipSpaces_blank_cons hw (by decide)]
  simp [skipSpaces_blank hw']

/-- The reader takes the tree and misses the end of each of its texts. -/
def Reads (read : Reader α) (j : Json) (a : α) : Prop := Takes read j a ∧ Misses read j

/-- Inside an item, or behind it. -/
theorem item_cut {item : Reader α} {j : Json} {a : α} (h : Reads item j a) {t u p q : Input}
    (ht : Written .exact j t) (hu : Ends u) (hp : t ++ u = p ++ q) :
    (Ended (item p) ∨ ∃ b, item p = .ok (b, [])) ∨ ∃ r, item p = .ok (a, r) ∧ u = r ++ q := by
  obtain ⟨r, hr, hne⟩ | ⟨r, rfl, rfl⟩ := cut_append hp
  · exact .inl ((h.2 blank_nil ht hr hne).imp id And.right)
  · exact .inr ⟨r, h.1 blank_nil ht (follows_of_ends hu.of_append j), rfl⟩

theorem readItemsIn_nil (item : Reader α) (turns : Nat) (first : Bool) :
    Ended (readItemsIn item turns first []) := by
  cases turns with
  | zero => exact ended_cut _
  | succ => exact ended_cut _

/-- A turn that reaches an item. -/
theorem readItemsIn_turn_cut {item : Reader α} {j : Json} {a : α} (h : Reads item j a)
    {first : Bool} {s t u p q : Input} (hs : nextItem? first s = .ok (some p))
    (ht : Written .exact j t) (hu : Ends u) (hp : t ++ u = p ++ q) {turns : Nat}
    (hrest : ∀ r, u = r ++ q → Ended (readItemsIn item turns false r)) :
    Ended (readItemsIn item (turns + 1) first s) := by
  rw [readItemsIn, hs]
  dsimp only
  obtain (⟨f, hf, hended⟩ | ⟨b, hb⟩) | ⟨r, hr, hur⟩ := item_cut h ht hu hp
  · rw [hf]
    exact ⟨f, rfl, hended⟩
  · obtain ⟨f, hf, hended⟩ := readItemsIn_nil item turns false
    rw [hb]
    dsimp only
    rw [hf]
    exact ⟨f, rfl, hended⟩
  · obtain ⟨f, hf, hended⟩ := hrest r hur
    rw [hr]
    dsimp only
    rw [hf]
    exact ⟨f, rfl, hended⟩

theorem readItemsIn_cut {item : Reader α} {items : List Json} {as : List α}
    (h : List.Forall₂ (Reads item) items as) {u p q : Input} (hu : WrittenItems .exact items u)
    (hp : u = p ++ q) (hq : q ≠ []) (turns : Nat) : Ended (readItemsIn item turns false p) := by
  induction h generalizing u p turns with
  | nil =>
    cases turns with
    | zero => exact ended_cut _
    | succ turns =>
      cases hu with
      | close hw =>
        rw [readItemsIn, nextItem?_blank (blank_of_cut_close hw hp hq)]
        exact ended_cut _
  | cons hj _ ih =>
    cases turns with
    | zero => exact ended_cut _
    | succ turns =>
      cases hu with
      | next hw hw' ht hu =>
        have hends := hu.ends []
        rw [List.append_nil] at hends
        obtain hblank | ⟨c, r, rfl, hr⟩ := cut_blank hw hp
        · rw [readItemsIn, nextItem?_blank hblank]
          exact ended_cut _
        obtain ⟨rfl, htail⟩ := List.cons.inj hr
        obtain hblank | ⟨d, r, rfl, hd⟩ := cut_blank hw' htail
        · rw [readItemsIn, nextItem?_comma_blank hw hblank]
          exact ended_cut _
        obtain ⟨c', t', rfl, hc⟩ := ht.opens
        obtain ⟨rfl, -⟩ := List.cons.inj hd
        exact readItemsIn_turn_cut hj (nextItem?_next_of_opens hw hw' hc r) ht hends hd
          fun r hur => ih hu hur turns

/-- Without its closing bracket an array is cut. -/
theorem readItems_cut {item : Reader α} {items : List Json} {as : List α}
    (h : List.Forall₂ (Reads item) items as) {t p q : Input}
    (ht : Written .exact (.array items) ('[' :: t)) (hp : t = p ++ q) (hq : q ≠ []) :
    Ended (readItems item true p) := by
  unfold readItems
  cases ht with
  | emptyArray hw =>
    rw [readItemsIn, nextItem?_blank (blank_of_cut_close hw hp hq)]
    exact ended_cut _
  | array hw hj hu =>
    have hends := hu.ends []
    rw [List.append_nil] at hends
    cases h with
    | cons hja hrest =>
      obtain hblank | ⟨c, r, rfl, hr⟩ := cut_blank hw hp
      · rw [readItemsIn, nextItem?_blank hblank]
        exact ended_cut _
      obtain ⟨c', t', rfl, hc⟩ := hj.opens
      obtain ⟨rfl, -⟩ := List.cons.inj hr
      exact readItemsIn_turn_cut hja (nextItem?_first_of_opens hw hc r) hj hends hr
        fun r hur => readItemsIn_cut hrest hu hur hq _

theorem Ended.enclosed {inside : Reader α} {close : Input → Except Failure Input}
    {leave : Input → Input} {s : Input} (h : Ended (inside s)) :
    Ended (enclosed inside close leave s) := by
  obtain ⟨f, hf, hended⟩ := h
  unfold Json.enclosed
  rw [hf]
  refine ⟨_, rfl, ?_⟩
  unfold Failure.placeBefore
  split <;> exact hended

/-! ## Objects -/

theorem nextName?_blank {w : Input} (hw : Blank w) (first : Bool) :
    nextName? first w = cut .object := by
  rw [nextName?, skipSpaces_blank hw]

theorem nextName?_comma_blank {w w' : Input} (hw : Blank w) (hw' : Blank w') :
    nextName? false (w ++ ',' :: w') = cut .value := by
  rw [nextName?, skipSpaces_blank_cons hw (by decide)]
  simp [skipSpaces_blank hw']

theorem readMembersIn_nil (member : String → σ → Reader σ) (turns : Nat) (first : Bool) (a : σ) :
    Ended (readMembersIn member turns first a []) := by
  cases turns with
  | zero => exact ended_cut _
  | succ => exact ended_cut _

/-- A turn that reaches a name: the text is cut inside the name, behind it, or behind the value. -/
theorem readMembersIn_turn_cut {member : String → σ → Reader σ} {a b : σ} {name : String} {j : Json}
    (h : TakesAfterName (member name a) j b) (hm : MissesAfterName (member name a) j)
    {first : Bool} {s t u p q : Input} (hs : nextName? first s = .ok (some p))
    (ht : WrittenMember .exact name j t) (hu : Ends u) (hp : t ++ u = '"' :: (p ++ q))
    {turns : Nat} (hrest : ∀ r, u = r ++ q → Ended (readMembersIn member turns false b r)) :
    Ended (readMembersIn member (turns + 1) first a s) := by
  rw [readMembersIn, hs]
  dsimp only
  cases ht with
  | @mk w w' t x _ _ hn hw hw' hj =>
    have hp : (x ++ ['"']) ++ ((w ++ ':' :: (w' ++ t)) ++ u) = p ++ q := by simpa using hp
    obtain ⟨r, hr, hne⟩ | ⟨r, rfl, hr⟩ := cut_append hp
    · obtain ⟨f, hf, hended⟩ := readText_cut hn hr hne
      rw [hf]
      exact ⟨f, rfl, hended⟩
    rw [List.append_assoc, List.singleton_append, readText_written hn]
    dsimp only
    obtain ⟨r', hr', hne⟩ | ⟨r', rfl, hr'⟩ := cut_append hr
    · obtain ⟨f, hf, hended⟩ | ⟨c, hc⟩ := hm hw hw' hj hr' hne
      · rw [hf]
        exact ⟨f, rfl, hended⟩
      · rw [hc]
        exact readMembersIn_nil member turns false c
    · have hread := h hw hw' hj (follows_of_ends (hr' ▸ hu).of_append j)
      rw [List.append_assoc, List.cons_append, List.append_assoc, hread]
      exact hrest r' hr'

theorem readMembersIn_cut {member : String → σ → Reader σ} {a : σ} {members : List (String × Json)}
    (h : Walk member a members) {u p q : Input} (hu : WrittenMembers .exact members u)
    (hp : u = p ++ q) (hq : q ≠ []) (turns : Nat) :
    Ended (readMembersIn member turns false a p) := by
  induction h generalizing u p turns with
  | done =>
    cases turns with
    | zero => exact ended_cut _
    | succ turns =>
      cases hu with
      | close hw =>
        rw [readMembersIn, nextName?_blank (blank_of_cut_close hw hp hq)]
        exact ended_cut _
  | step hj hm _ ih =>
    cases turns with
    | zero => exact ended_cut _
    | succ turns =>
      cases hu with
      | next hw hw' ht hu =>
        have hends := hu.ends []
        rw [List.append_nil] at hends
        obtain hblank | ⟨c, r, rfl, hr⟩ := cut_blank hw hp
        · rw [readMembersIn, nextName?_blank hblank]
          exact ended_cut _
        obtain ⟨rfl, htail⟩ := List.cons.inj hr
        obtain hblank | ⟨d, r, rfl, hd⟩ := cut_blank hw' htail
        · rw [readMembersIn, nextName?_comma_blank hw hblank]
          exact ended_cut _
        obtain ⟨t', rfl⟩ := ht.opens
        obtain ⟨rfl, -⟩ := List.cons.inj hd
        exact readMembersIn_turn_cut hj hm (nextName?_next hw hw' r) ht hends hd
          fun r hur => ih hu hur turns

/-- Without its closing brace an object is cut. -/
theorem readMembers_cut {member : String → σ → Reader σ} {a : σ} {members : List (String × Json)}
    (h : Walk member a members) {t p q : Input}
    (ht : Written .exact (.object members) ('\x7b' :: t)) (hp : t = p ++ q) (hq : q ≠ []) :
    Ended (readMembers member a p) := by
  unfold readMembers
  cases ht with
  | emptyObject hw =>
    rw [readMembersIn, nextName?_blank (blank_of_cut_close hw hp hq)]
    exact ended_cut _
  | object hw hj hu =>
    have hends := hu.ends []
    rw [List.append_nil] at hends
    cases h with
    | step hm hmiss hrest =>
      obtain hblank | ⟨c, r, rfl, hr⟩ := cut_blank hw hp
      · rw [readMembersIn, nextName?_blank hblank]
        exact ended_cut _
      obtain ⟨t', rfl⟩ := hj.opens
      obtain ⟨rfl, -⟩ := List.cons.inj hr
      exact readMembersIn_turn_cut hm hmiss (nextName?_first hw r) hj hends hr
        fun r hur => readMembersIn_cut hrest hu hur hq _

/-- In front of the colon, or behind it. -/
theorem colon_cut {w w' t p q : Input} (hw : Blank w) (h : w ++ ':' :: (w' ++ t) = p ++ q) :
    readColon p = cut .object ∨ ∃ r, readColon p = .ok r ∧ w' ++ t = r ++ q := by
  obtain hblank | ⟨c, r, rfl, hr⟩ := cut_blank hw h
  · exact .inl (by rw [readColon, skipSpaces_blank hblank])
  · obtain ⟨rfl, htail⟩ := List.cons.inj hr
    exact .inr ⟨r, readColon_blank hw r, htail⟩

/-! ## Values of any kind -/

theorem readNumeral_cut_ended {n : Nat} (hn : n < UInt64.size) (negative : Bool) {p q : Input}
    (h : Nat.toDigits 10 n = p ++ q) :
    Ended (readNumeral negative p) ∨ ∃ m, readNumeral negative p = .ok (m, []) := by
  by_cases hp : p = []
  · subst hp
    exact .inl (ended_cut _)
  · obtain ⟨m, -, hm⟩ := readNumeral_cut hn negative h hp
    exact .inr ⟨_, hm⟩

theorem readScalar_cut {j : Json} (ha : ∀ items, j ≠ .array items)
    (ho : ∀ members, j ≠ .object members) {t p q : Input} (ht : Written .exact j t)
    (hp : t = p ++ q) (hq : q ≠ []) :
    Ended (readScalar p) ∨ (∃ n, j = .number n) ∧ ∃ k, readScalar p = .ok (k, []) := by
  cases p with
  | nil => exact .inl (ended_cut _)
  | cons c p =>
    cases ht with
    | null | yes | no =>
      obtain ⟨rfl, htail⟩ := List.cons.inj hp
      exact .inl ((readKeyword_cut htail hq).map _)
    | text ht =>
      obtain ⟨rfl, htail⟩ := List.cons.inj hp
      exact .inl ((readText_cut ht htail hq).map _)
    | @number n _ h =>
      have number : ∀ {negative : Bool} {s : Input},
          readScalar (c :: p) = (readNumeral negative s).map (fun x => (Json.number x.1, x.2)) →
          (Ended (readNumeral negative s) ∨ ∃ m, readNumeral negative s = .ok (m, [])) →
          Ended (readScalar (c :: p)) ∨ (∃ m, Json.number n = .number m) ∧
            ∃ k, readScalar (c :: p) = .ok (k, []) := by
        rintro negative s hread (hended | ⟨m, hm⟩)
        · exact .inl (hread ▸ hended.map _)
        · exact .inr ⟨⟨n, rfl⟩, .number m, by rw [hread, hm]; rfl⟩
      cases h with
      | natural hn =>
        have hc : isDigit c = true :=
          (digits_toDigits _).2 c (hp ▸ List.mem_append_left q List.mem_cons_self)
        exact number (readScalar_digit hc p) (readNumeral_cut_ended hn false hp)
      | minus hn =>
        obtain ⟨rfl, htail⟩ := List.cons.inj hp
        exact number rfl (readNumeral_cut_ended hn true htail)
    | emptyArray => exact absurd rfl (ha _)
    | array => exact absurd rfl (ha _)
    | emptyObject => exact absurd rfl (ho _)
    | object => exact absurd rfl (ho _)

theorem readTreeMember_misses {value : Reader Json} {j : Json} (h : Misses value j) (name : String)
    (members : List (String × Json)) :
    MissesAfterName (readTreeMember value name members) j := by
  intro w w' t p q hw hw' ht hp hq
  obtain hcut | ⟨r, hcolon, hr⟩ := colon_cut hw hp
  · rw [readTreeMember, hcut]
    exact .inl (ended_cut _)
  · rw [readTreeMember, hcolon]
    dsimp only
    obtain ⟨f, hf, hended⟩ | ⟨-, k, hk⟩ := h hw' ht hr hq
    · exact .inl ⟨f, by rw [hf], hended⟩
    · exact .inr ⟨_, by rw [hk]⟩

theorem walk_readTreeMember {value : Reader Json} {members : List (String × Json)}
    (h : ∀ p ∈ members, Reads value p.2 p.2) (before : List (String × Json)) :
    Walk (readTreeMember value) before members := by
  induction members generalizing before with
  | nil => exact .done
  | cons p members ih =>
    obtain ⟨hp, hmembers⟩ := List.forall_mem_cons.mp h
    exact .step (readTreeMember_takes hp.1 p.1 before) (readTreeMember_misses hp.2 p.1 before)
      (ih hmembers _)

theorem readTree_blank (room : Nat) {w : Input} (hw : Blank w) : readTree room w = cut .value := by
  cases room <;> rw [readTree, skipSpaces_blank hw] <;> rfl

theorem readTree_misses_scalar {j : Json} (ha : ∀ items, j ≠ .array items)
    (ho : ∀ members, j ≠ .object members) (room : Nat) : Misses (readTree room) j := by
  intro w t p q hw ht hp hq
  obtain hblank | ⟨c, r, rfl, hr⟩ := cut_blank hw hp
  · exact .inl (readTree_blank room hblank ▸ ended_cut _)
  · have hcut := readScalar_cut ha ho ht (p := c :: r) hr hq
    obtain ⟨c', t', rfl, hc⟩ := ht.opens
    obtain ⟨rfl, -⟩ := List.cons.inj hr
    rwa [readTree_opens ha ho room hw hc]

/-- Inside of strings and numbers, and between brackets, the reader of trees misses the end. -/
theorem readTree_misses {room : Nat} {j : Json} (hd : j.depth ≤ room) :
    Misses (readTree room) j := by
  induction room generalizing j with
  | zero =>
    refine readTree_misses_scalar ?_ ?_ 0
    · rintro items rfl
      obtain ⟨room, hroom, -⟩ := room_of_depth_array hd
      cases hroom
    · rintro members rfl
      obtain ⟨room, hroom, -⟩ := room_of_depth_object hd
      cases hroom
  | succ room ih =>
    cases j with
    | null | boolean | number | text =>
      exact readTree_misses_scalar (fun _ => Json.noConfusion) (fun _ => Json.noConfusion) _
    | array items =>
      have hitems : List.Forall₂ (Reads (readTree room)) items items :=
        List.forall₂_same.mpr fun k hk =>
          ⟨readTree_takes (depth_array_le.mp hd k hk), ih (depth_array_le.mp hd k hk)⟩
      intro w t p q hw ht hp hq
      obtain hblank | ⟨c, r, rfl, rfl⟩ := cut_blank hw hp
      · exact .inl (readTree_blank _ hblank ▸ ended_cut _)
      · obtain ⟨c', t', ht', rfl⟩ := ht.opens
        obtain ⟨rfl, rfl⟩ := List.cons.inj ht'
        rw [readTree_array room hw]
        exact .inl ((readItems_cut hitems ht rfl hq).enclosed.map _)
    | object members =>
      have hmembers : Walk (readTreeMember (readTree room)) [] members :=
        walk_readTreeMember (fun p hp =>
          ⟨readTree_takes (depth_object_le.mp hd p hp), ih (depth_object_le.mp hd p hp)⟩) []
      intro w t p q hw ht hp hq
      obtain hblank | ⟨c, r, rfl, rfl⟩ := cut_blank hw hp
      · exact .inl (readTree_blank _ hblank ▸ ended_cut _)
      · obtain ⟨c', t', ht', rfl⟩ := ht.opens
        obtain ⟨rfl, rfl⟩ := List.cons.inj ht'
        rw [readTree_object room hw]
        exact .inl ((readMembers_cut hmembers ht rfl hq).enclosed.map _)

end SubscriberContract.Json
