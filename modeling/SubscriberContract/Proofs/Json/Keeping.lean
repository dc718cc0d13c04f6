import SubscriberContract.Proofs.Json.Presented

/-!
# Readers that keep to the text

A reader keeps to the text if, whatever value it gives for a text of a tree, it stops exactly behind
that text. It may refuse the text, and the text may be a loose one, so what the value has to do with
the tree is a relation of the reader's own. The reader of trees gives a tree that is alike: only its
numbers may differ.
-/

namespace SubscriberContract.Json

variable {α β σ : Type} {w w' t u s s' : Input}

/-- Whatever the reader gives for a text of a tree, it stops behind the text, and the value is
related to the tree. -/
def Keeps (read : Reader α) (R : Json → α → Prop) : Prop :=
  ∀ ⦃w t s s' : Input⦄ ⦃j : Json⦄ ⦃a : α⦄, Blank w → Written .loose j t → Follows j s →
    read (w ++ (t ++ s)) = .ok (a, s') → s' = s ∧ R j a

/-- The reader starts in front of the colon between a name and its value. -/
def KeepsAfterName (read : Reader α) (R : Json → α → Prop) : Prop :=
  ∀ ⦃w w' t s s' : Input⦄ ⦃j : Json⦄ ⦃a : α⦄, Blank w → Blank w' → Written .loose j t →
    Follows j s → read (w ++ ':' :: (w' ++ (t ++ s))) = .ok (a, s') → s' = s ∧ R j a

theorem Keeps.mono {read : Reader α} {R R' : Json → α → Prop} (h : Keeps read R)
    (hR : ∀ j a, R j a → R' j a) : Keeps read R' :=
  fun _ _ _ _ j a hw ht hs hr => (h hw ht hs hr).imp_right (hR j a)

/-! ## Strings -/

theorem consChar_eq_ok_iff {c : Char} {r : Except Failure (List Char × Input)} {cs : List Char} :
    consChar c r = .ok (cs, s) ↔ ∃ cs', r = .ok (cs', s) ∧ cs = c :: cs' := by
  cases r with
  | error => simp [consChar]
  | ok p =>
    obtain ⟨cs', s'⟩ := p
    simp only [consChar, Except.ok.injEq, Prod.mk.injEq]
    constructor
    · rintro ⟨rfl, rfl⟩
      exact ⟨cs', ⟨rfl, rfl⟩, rfl⟩
    · rintro ⟨_, ⟨rfl, rfl⟩, rfl⟩
      exact ⟨rfl, rfl⟩

theorem badHex_ne_ok {r : α} : badHex s ≠ .ok r := by
  unfold badHex
  split <;> exact nofun

theorem unpaired_ne_ok {r : α} : unpaired s ≠ .ok r := by
  unfold unpaired
  split <;> exact nofun

/-- What is read of a string is written in front of the closing quote. -/
theorem written_of_readChars {cs : List Char} (h : readChars s = .ok (cs, s')) :
    ∃ t, s = t ++ '"' :: s' ∧ WrittenChars cs t := by
  have step : ∀ {c : Char} {u x : Input} {cs : List Char}, WrittenChar c u →
      (∀ cs', readChars x = .ok (cs', s') → ∃ t, x = t ++ '"' :: s' ∧ WrittenChars cs' t) →
      consChar c (readChars x) = .ok (cs, s') →
        ∃ t, u ++ x = t ++ '"' :: s' ∧ WrittenChars cs t := by
    intro c u x cs hc ih hr
    obtain ⟨cs', hcs, rfl⟩ := consChar_eq_ok_iff.mp hr
    obtain ⟨t, rfl, ht⟩ := ih cs' hcs
    exact ⟨u ++ t, (List.append_assoc _ _ _).symm, .cons hc ht⟩
  fun_induction readChars s generalizing cs with
  | case2 s =>
    cases h
    exact ⟨[], rfl, .nil⟩
  | case7 _ _ _ _ n hn _ hl _ _ _ _ t m hm ht ih => exact step (.pair hn hl hm ht) (fun _ => ih) h
  | case11 _ _ _ _ s n hn ht hl ih =>
    exact step (.code hn (eq_false_of_ne_true hl) (eq_false_of_ne_true ht)) (fun _ => ih) h
  | case13 c s _ _ e he ih => exact step (.short he) (fun _ => ih) h
  | case16 c s hq hend _ hesc hc ih =>
    refine step (.plain hq (fun hb => ?_) hc) (fun _ => ih) h
    cases s with
    | nil => exact hend hb rfl
    | cons c s => exact hesc c s hb rfl
  | case4 | case6 | case9 | case12 => exact absurd h badHex_ne_ok
  | case10 => exact absurd h unpaired_ne_ok
  | _ => cases h

/-- If a name is read at all, it is the one that is written, and reading stops behind its quote. -/
theorem readText_keeps {name name' : String} (ht : WrittenText .loose name t)
    (h : readText (t ++ '"' :: s) = .ok (name', s')) : name' = name ∧ s' = s := by
  obtain ⟨⟨cs, s''⟩, hcs, hr⟩ := map_eq_ok_iff.mp h
  cases hr
  obtain ⟨t', happend, ht'⟩ := written_of_readChars hcs
  have hskip := skipChars_pieces ht.pieces s
  rw [happend, skipChars_pieces ht'.pieces] at hskip
  obtain rfl := Except.ok.inj hskip
  obtain rfl := List.append_cancel_right happend
  cases ht with
  | text ht =>
    rw [readChars_written ht] at hcs
    cases hcs
    exact ⟨String.ofList_toList, rfl⟩
  | odd _ hodd => exact absurd ht' (hodd cs)

/-! ## Numbers -/

theorem finish_eq_ok {negative : Bool} {significand : Nat} {exponent : Int} {n : Number}
    (h : finish negative significand exponent s = .ok (n, s')) : s' = s := by
  unfold finish at h
  split at h
  · cases h
    rfl
  · cases h

theorem readExponentDigits_eq_ok {n m : Nat} (h : readExponentDigits n s = .ok (m, s')) :
    s' = s.dropWhile isDigit := by
  fun_induction readExponentDigits n s with
  | case1 n c s hc _ _ ih => rw [List.dropWhile_cons_of_pos hc, ih h]
  | case2 => cases h
  | case3 n c s hc =>
    cases h
    rw [List.dropWhile_cons_of_neg hc]
  | case4 => cases h; rfl

theorem readExponentDigits_eq_error {n : Nat} (h : readExponentDigits n s = .error s') :
    s'.dropWhile isDigit = s.dropWhile isDigit := by
  fun_induction readExponentDigits n s with
  | case1 n c s hc _ _ ih => rw [List.dropWhile_cons_of_pos hc, ih h]
  | case2 n c s hc =>
    cases h
    rw [List.dropWhile_cons_of_pos hc]
  | case3 | case4 => cases h

/-- An exponent that is read behind its sign is passed over digit by digit. -/
theorem takeDigits_of_exponentDigits {negative down : Bool} {significand : Nat} {before : Int}
    {n : Number}
    (h : (match s with
        | [] => cut .value
        | c :: rest =>
          if isDigit c then
            match readExponentDigits (digitValue c) rest with
            | .ok (n, s) => finish negative significand (if down then before - n else before + n) s
            | .error s =>
              if significand ≠ 0 ∧ !down then stopBefore .numberOutOfRange s
              else .ok (floating negative 0, (takeDigits s).2)
          else stopAt .invalidNumber s) = Except.ok (n, s')) :
    ∃ c ds, takeDigits s = (c :: ds, s') := by
  split at h
  · cases h
  · next c rest =>
    split at h
    · next hc =>
      refine ⟨c, rest.takeWhile isDigit, ?_⟩
      rw [takeDigits, List.takeWhile_cons_of_pos hc, List.dropWhile_cons_of_pos hc]
      split at h
      · next hd => rw [finish_eq_ok h, readExponentDigits_eq_ok hd]
      · next hd =>
        split at h
        · cases h
        · cases h
          rw [takeDigits, readExponentDigits_eq_error hd]
    · cases h

/-- Reading an exponent ends where passing over it does. -/
theorem skipExponent_of_readExponent {negative : Bool} {significand : Nat} {before : Int}
    {n : Number} (h : readExponent negative significand before s = .ok (n, s')) :
    skipExponent s = .ok s' := by
  unfold readExponent at h
  split at h
  next down s₁ hsign =>
  obtain ⟨c, ds, hds⟩ := takeDigits_of_exponentDigits h
  unfold skipExponent
  split at hsign <;> cases hsign <;> simp only [hds]

/-- Reading a number ends where passing over it does. -/
theorem skipNumeral_of_readNumeral {negative : Bool} {n : Number}
    (h : readNumeral negative s = .ok (n, s')) : skipNumeral s = .ok s' := by
  unfold readNumeral at h
  unfold skipNumeral
  split at h
  · cases h
  · cases h
  · cases h
  next digits s₁ _ hdigits hzero hds =>
  rw [hds]
  split
  · next h' => exact absurd (Prod.mk.inj h').1 hdigits
  · next h' => exact absurd (Prod.mk.inj h').1 (hzero _ _)
  next h' =>
  obtain ⟨rfl, rfl⟩ := Prod.mk.inj h'
  dsimp only at h
  split at h
  · next s₂ =>
    unfold readFraction at h
    split at h
    · cases h
    · cases h
    next digits₂ s₃ _ hdigits₂ hds₂ =>
    obtain ⟨d, ds, rfl⟩ := List.exists_cons_of_ne_nil hdigits₂
    dsimp only at h ⊢
    rw [hds₂]
    unfold readTail at h
    split at h
    · exact skipExponent_of_readExponent h
    · exact skipExponent_of_readExponent h
    · next he hE =>
      rw [finish_eq_ok h]
      split
      · next h' => cases h'
      · next h' => exact absurd (Prod.mk.inj h').2 (he _)
      · next h' => exact absurd (Prod.mk.inj h').2 (hE _)
      · next h' => rw [(Prod.mk.inj h').2]
  · exact skipExponent_of_readExponent h
  · exact skipExponent_of_readExponent h
  · next hpoint he hE =>
    have hs : s' = s₁ := by
      split at h
      · exact finish_eq_ok h
      · split at h
        · cases h; rfl
        · split at h <;> cases h <;> rfl
    rw [hs]

theorem readNumeral_keeps {negative : Bool} {n : Number} (ht : Unsigned t) (hs : Ends s)
    (h : readNumeral negative (t ++ s) = .ok (n, s')) : s' = s := by
  have hskip := skipNumeral_of_readNumeral h
  rw [skipNumeral_unsigned ht hs] at hskip
  exact (Except.ok.inj hskip).symm

/-! ## Trees that are alike -/

mutual

/-- The trees differ in their numbers only. -/
inductive Alike : Json → Json → Prop
  | null : Alike .null .null
  | boolean (b : Bool) : Alike (.boolean b) (.boolean b)
  | number (n n' : Number) : Alike (.number n) (.number n')
  | text (s : String) : Alike (.text s) (.text s)
  | array {items items' : List Json} (h : AlikeItems items items') :
      Alike (.array items) (.array items')
  | object {members members' : List (String × Json)} (h : AlikeMembers members members') :
      Alike (.object members) (.object members')

inductive AlikeItems : List Json → List Json → Prop
  | nil : AlikeItems [] []
  | cons {j j' : Json} {items items' : List Json} (h : Alike j j') (hs : AlikeItems items items') :
      AlikeItems (j :: items) (j' :: items')

inductive AlikeMembers : List (String × Json) → List (String × Json) → Prop
  | nil : AlikeMembers [] []
  | cons {name : String} {j j' : Json} {members members' : List (String × Json)} (h : Alike j j')
      (hs : AlikeMembers members members') :
      AlikeMembers ((name, j) :: members) ((name, j') :: members')

end

theorem alikeItems_of_forall₂ {items items' : List Json} (h : List.Forall₂ Alike items items') :
    AlikeItems items items' := by
  induction h with
  | nil => exact .nil
  | cons h _ ih => exact .cons h ih

theorem readScalar_keeps {j j' : Json} (ha : ∀ items, j ≠ .array items)
    (ho : ∀ members, j ≠ .object members) (ht : Written .loose j t) (hs : Follows j s)
    (h : readScalar (t ++ s) = .ok (j', s')) : s' = s ∧ Alike j j' := by
  cases ht with
  | null =>
    cases h
    exact ⟨rfl, .null⟩
  | yes | no =>
    cases h
    exact ⟨rfl, .boolean _⟩
  | text ht =>
    rw [List.cons_append, List.append_assoc, List.singleton_append] at h
    obtain ⟨⟨name, s''⟩, hname, hr⟩ := map_eq_ok_iff.mp h
    cases hr
    obtain ⟨rfl, rfl⟩ := readText_keeps ht hname
    exact ⟨rfl, .text _⟩
  | number ht =>
    obtain hu | ⟨t, rfl, hu⟩ := ht.unsigned
    · obtain ⟨c, t', rfl, hc⟩ := hu.exists_cons
      rw [List.cons_append, readScalar_digit hc] at h
      obtain ⟨⟨n, s''⟩, hn, hr⟩ := map_eq_ok_iff.mp h
      cases hr
      exact ⟨readNumeral_keeps hu hs hn, .number _ _⟩
    · obtain ⟨⟨n, s''⟩, hn, hr⟩ := map_eq_ok_iff.mp h
      cases hr
      exact ⟨readNumeral_keeps hu hs hn, .number _ _⟩
  | emptyArray => exact absurd rfl (ha _)
  | array => exact absurd rfl (ha _)
  | emptyObject => exact absurd rfl (ho _)
  | object => exact absurd rfl (ho _)

/-! ## Arrays and objects -/

theorem enclosed_eq_ok_iff {inside : Reader α} {close : Input → Except Failure Input}
    {leave : Input → Input} {a : α} :
    enclosed inside close leave s = .ok (a, s') ↔
      ∃ u, inside s = .ok (a, u) ∧ close u = .ok s' := by
  unfold enclosed
  cases inside s with
  | error f => simp
  | ok r =>
    obtain ⟨b, u⟩ := r
    dsimp only
    cases hclose : close u with
    | error f => simp [hclose]
    | ok v => simp [hclose]

variable {item : Reader α} {R : Json → α → Prop} {items : List Json} {as : List α}

theorem readItemsIn_keeps (h : Keeps item R) (hu : WrittenItems .loose items u) {turns : Nat}
    (hr : readItemsIn item turns false (u ++ s) = .ok (as, s')) :
    s' = ']' :: s ∧ List.Forall₂ R items as := by
  induction items generalizing u turns as with
  | nil =>
    cases turns with
    | zero => cases hr
    | succ turns =>
      cases hu with
      | close hw =>
        rw [List.append_assoc, List.singleton_append, readItemsIn, nextItem?_close hw] at hr
        dsimp only at hr
        rw [skipSpaces_blank_cons hw (by decide)] at hr
        cases hr
        exact ⟨rfl, .nil⟩
  | cons j items ih =>
    cases turns with
    | zero => cases hr
    | succ turns =>
      cases hu with
      | next hw hw' hj hu =>
        rw [List.append_assoc, List.cons_append, List.append_assoc, List.append_assoc, readItemsIn,
          nextItem?_next hw hw' hj] at hr
        dsimp only at hr
        split at hr
        · cases hr
        next a _ ha =>
        obtain ⟨rfl, hja⟩ := h blank_nil hj (follows_of_ends (hu.ends s) _) ha
        split at hr
        · cases hr
        next has =>
        cases hr
        exact (ih hu has).imp_right (.cons hja)

theorem readItems_keeps (h : Keeps item R) (ht : Written .loose (.array items) ('[' :: t))
    (hr : readItems item true (t ++ s) = .ok (as, s')) :
    s' = ']' :: s ∧ List.Forall₂ R items as := by
  unfold readItems at hr
  cases ht with
  | emptyArray hw =>
    rw [List.append_assoc, List.singleton_append, readItemsIn, nextItem?_close hw] at hr
    dsimp only at hr
    rw [skipSpaces_blank_cons hw (by decide)] at hr
    cases hr
    exact ⟨rfl, .nil⟩
  | array hw hj hu =>
    rw [List.append_assoc, List.append_assoc, readItemsIn, nextItem?_first hw hj] at hr
    dsimp only at hr
    split at hr
    · cases hr
    next a _ ha =>
    obtain ⟨rfl, hja⟩ := h blank_nil hj (follows_of_ends (hu.ends s) _) ha
    split at hr
    · cases hr
    next has =>
    cases hr
    exact (readItemsIn_keeps h hu has).imp_right (.cons hja)

theorem closeList_bracket (s : Input) : closeList (']' :: s) = .ok s := by
  rw [closeList, skipSpaces_cons (by decide)]
  rfl

theorem inList_keeps (h : Keeps item R) (ht : Written .loose (.array items) ('[' :: t))
    (hr : inList (readItems item true) (t ++ s) = .ok (as, s')) :
    s' = s ∧ List.Forall₂ R items as := by
  obtain ⟨v, hv, hclose⟩ := enclosed_eq_ok_iff.mp hr
  obtain ⟨rfl, has⟩ := readItems_keeps h ht hv
  rw [closeList_bracket] at hclose
  exact ⟨(Except.ok.inj hclose).symm, has⟩

variable {member : String → σ → Reader σ} {T : σ → String → Json → σ → Prop} {a b : σ}
  {members : List (String × Json)}

/-- One turn over a member, if it succeeds. -/
theorem member_turn_keeps {name name' : String} {j : Json}
    (h : ∀ a name, KeepsAfterName (member name a) fun j b => T a name j b)
    (ht : WrittenMember .loose name j ('"' :: t)) (hs : Follows j s) {s₁ : Input}
    (hname : readText (t ++ s) = .ok (name', s₁)) (hr : member name' a s₁ = .ok (b, s')) :
    s' = s ∧ T a name j b := by
  cases ht with
  | mk hn hw hw' hj =>
    simp only [List.append_assoc, List.cons_append] at hname
    obtain ⟨rfl, rfl⟩ := readText_keeps hn hname
    exact h a _ hw hw' hj hs hr

theorem readMembersIn_keeps (h : ∀ a name, KeepsAfterName (member name a) fun j b => T a name j b)
    (hu : WrittenMembers .loose members u) {turns : Nat}
    (hr : readMembersIn member turns false a (u ++ s) = .ok (b, s')) :
    s' = '\x7d' :: s ∧ Runs T a members b := by
  induction members generalizing u turns a with
  | nil =>
    cases turns with
    | zero => cases hr
    | succ turns =>
      cases hu with
      | close hw =>
        rw [List.append_assoc, List.singleton_append, readMembersIn, nextName?_close hw] at hr
        dsimp only at hr
        rw [skipSpaces_blank_cons hw (by decide)] at hr
        cases hr
        exact ⟨rfl, .done⟩
  | cons m members ih =>
    cases turns with
    | zero => cases hr
    | succ turns =>
      cases hu with
      | next hw hw' hj hu =>
        obtain ⟨t', rfl⟩ := hj.opens
        rw [List.append_assoc, List.cons_append, List.append_assoc, List.append_assoc,
          List.cons_append, readMembersIn, nextName?_next hw hw'] at hr
        dsimp only at hr
        split at hr
        · cases hr
        next hname =>
        split at hr
        · cases hr
        next hmember =>
        obtain ⟨rfl, hT⟩ :=
          member_turn_keeps h hj (follows_of_ends (hu.ends s) _) hname hmember
        exact (ih hu hr).imp_right (.step hT)

theorem readMembers_keeps (h : ∀ a name, KeepsAfterName (member name a) fun j b => T a name j b)
    (ht : Written .loose (.object members) ('\x7b' :: t))
    (hr : readMembers member a (t ++ s) = .ok (b, s')) :
    s' = '\x7d' :: s ∧ Runs T a members b := by
  unfold readMembers at hr
  cases ht with
  | emptyObject hw =>
    rw [List.append_assoc, List.singleton_append, readMembersIn, nextName?_close hw] at hr
    dsimp only at hr
    rw [skipSpaces_blank_cons hw (by decide)] at hr
    cases hr
    exact ⟨rfl, .done⟩
  | object hw hj hu =>
    obtain ⟨t', rfl⟩ := hj.opens
    rw [List.append_assoc, List.append_assoc, List.cons_append, readMembersIn,
      nextName?_first hw] at hr
    dsimp only at hr
    split at hr
    · cases hr
    next hname =>
    split at hr
    · cases hr
    next hmember =>
    obtain ⟨rfl, hT⟩ := member_turn_keeps h hj (follows_of_ends (hu.ends s) _) hname hmember
    exact (readMembersIn_keeps h hu hr).imp_right (.step hT)

theorem inObject_keeps {inside : Reader α} {c : α} {Q : Prop}
    (hr : inObject inside s = .ok (c, s'))
    (h : ∀ u, inside s = .ok (c, u) → u = '\x7d' :: t ∧ Q) : s' = t ∧ Q := by
  obtain ⟨u, hu, hclose⟩ := enclosed_eq_ok_iff.mp hr
  obtain ⟨rfl, hQ⟩ := h u hu
  rw [closeObject_brace] at hclose
  exact ⟨(Except.ok.inj hclose).symm, hQ⟩

/-! ## Values of any kind -/

theorem readTreeMember_keeps {value : Reader Json} (h : Keeps value Alike) (name : String)
    (kept : List (String × Json)) :
    KeepsAfterName (readTreeMember value name kept) fun j kept' =>
      ∃ j', Alike j j' ∧ kept' = (name, j') :: kept := by
  intro w w' t s s' j kept' hw hw' ht hs hr
  rw [readTreeMember, readColon_blank hw] at hr
  dsimp only at hr
  split at hr
  · cases hr
  next j' _ hj =>
  cases hr
  exact (h hw' ht hs hj).imp_right fun hj => ⟨j', hj, rfl⟩

/-- Members that are kept one by one are alike, the last first. -/
theorem alikeMembers_of_runs {kept kept' : List (String × Json)}
    (h : Runs (fun kept name j kept' => ∃ j', Alike j j' ∧ kept' = (name, j') :: kept) kept members
      kept') : ∃ members', AlikeMembers members members' ∧ kept' = members'.reverse ++ kept := by
  induction h with
  | done => exact ⟨[], .nil, rfl⟩
  | step h _ ih =>
    obtain ⟨j', hj, rfl⟩ := h
    obtain ⟨members', hmembers, rfl⟩ := ih
    exact ⟨_, .cons hj hmembers, by rw [List.reverse_cons, List.append_assoc]; rfl⟩

theorem readTree_scalar_keeps {j j' : Json} (ha : ∀ items, j ≠ .array items)
    (ho : ∀ members, j ≠ .object members) (room : Nat) (hw : Blank w) (ht : Written .loose j t)
    (hs : Follows j s) (hr : readTree room (w ++ (t ++ s)) = .ok (j', s')) :
    s' = s ∧ Alike j j' := by
  obtain ⟨c, t', rfl, hc⟩ := ht.opens
  rw [List.cons_append, readTree_opens ha ho room hw hc] at hr
  exact readScalar_keeps ha ho ht hs hr

/-- The reader of trees keeps to the text, and gives a tree that is alike. -/
theorem readTree_keeps (room : Nat) : Keeps (readTree room) Alike := by
  induction room with
  | zero =>
    intro w t s s' j j' hw ht hs hr
    cases j with
    | null | boolean | number | text =>
      exact readTree_scalar_keeps (fun _ => nofun) (fun _ => nofun) 0 hw ht hs hr
    | array | object =>
      obtain ⟨c, t', rfl, rfl⟩ := ht.opens
      rw [List.cons_append, readTree, skipSpaces_blank_cons hw (by decide)] at hr
      cases hr
  | succ room ih =>
    intro w t s s' j j' hw ht hs hr
    cases j with
    | null | boolean | number | text =>
      exact readTree_scalar_keeps (fun _ => nofun) (fun _ => nofun) _ hw ht hs hr
    | array items =>
      obtain ⟨c, t', rfl, rfl⟩ := ht.opens
      rw [List.cons_append, readTree_array room hw] at hr
      obtain ⟨⟨items', s''⟩, hitems, hr⟩ := map_eq_ok_iff.mp hr
      cases hr
      exact (inList_keeps ih ht hitems).imp_right fun h => .array (alikeItems_of_forall₂ h)
    | object members =>
      obtain ⟨c, t', rfl, rfl⟩ := ht.opens
      rw [List.cons_append, readTree_object room hw] at hr
      obtain ⟨⟨kept, s''⟩, hkept, hr⟩ := map_eq_ok_iff.mp hr
      cases hr
      have hmembers := inObject_keeps hkept fun u hu =>
        readMembers_keeps (fun kept name => readTreeMember_keeps ih name kept) ht hu
      refine hmembers.imp_right fun h => ?_
      obtain ⟨members', halike, rfl⟩ := alikeMembers_of_runs h
      rw [List.append_nil, List.reverse_reverse]
      exact .object halike

end SubscriberContract.Json
