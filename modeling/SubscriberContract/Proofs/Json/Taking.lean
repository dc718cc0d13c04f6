import Mathlib.Data.List.Forall2
import SubscriberContract.Proofs.Json.Tokens

/-!
# Readers that take a tree

A reader takes a tree for a value if it reads every text of the tree as that value and stops behind
it. A reader of arrays takes an array if its item reader takes the items, and a reader of objects
takes an object if its steps lead over the members.
-/

namespace SubscriberContract.Json

variable {α σ : Type} {k : Precision}

/-- The reader reads every exact text of the tree, after white space, as this value. -/
def Takes (read : Reader α) (j : Json) (a : α) : Prop :=
  ∀ ⦃w t s : Input⦄, Blank w → Written .exact j t → Follows j s →
    read (w ++ (t ++ s)) = .ok (a, s)

/-- The reader starts in front of the colon between a name and its value. -/
def TakesAfterName (read : Reader α) (j : Json) (a : α) : Prop :=
  ∀ ⦃w w' t s : Input⦄, Blank w → Blank w' → Written .exact j t → Follows j s →
    read (w ++ ':' :: (w' ++ (t ++ s))) = .ok (a, s)

/-- The steps of a reader of members lead from one state over the members to another. -/
inductive Steps (member : String → σ → Reader σ) : σ → List (String × Json) → σ → Prop
  | done {a : σ} : Steps member a [] a
  | step {a b c : σ} {name : String} {j : Json} {members : List (String × Json)}
      (h : TakesAfterName (member name a) j b) (hs : Steps member b members c) :
      Steps member a ((name, j) :: members) c

theorem Steps.append {member : String → σ → Reader σ} {a b c : σ}
    {members members' : List (String × Json)} (h : Steps member a members b)
    (h' : Steps member b members' c) : Steps member a (members ++ members') c := by
  induction h with
  | done => exact h'
  | step hm _ ih => exact .step hm (ih h')

/-! ## Where texts begin and end -/

/-- The first character of a text tells the kind of the tree. -/
def Opens : Json → Char → Prop
  | .null, c => c = 'n'
  | .boolean true, c => c = 't'
  | .boolean false, c => c = 'f'
  | .number _, c => isDigit c = true ∨ c = '-'
  | .text _, c => c = '"'
  | .array _, c => c = '['
  | .object _, c => c = '\x7b'

theorem Digits.exists_cons {ds : Input} (h : Digits ds) :
    ∃ c ds', ds = c :: ds' ∧ isDigit c = true := by
  match ds, h with
  | c :: ds, h => exact ⟨c, ds, rfl, h.2 c List.mem_cons_self⟩
  | [], h => exact absurd rfl h.1

theorem Unsigned.exists_cons {t : Input} (h : Unsigned t) :
    ∃ c t', t = c :: t' ∧ isDigit c = true := by
  cases h with
  | mk hd _ _ _ =>
    obtain ⟨c, ds, rfl, hc⟩ := hd.exists_cons
    exact ⟨c, _, rfl, hc⟩

theorem Written.opens {j : Json} {t : Input} (h : Written k j t) :
    ∃ c t', t = c :: t' ∧ Opens j c := by
  cases h with
  | number h =>
    cases h with
    | natural =>
      obtain ⟨c, ds, hds, hc⟩ := (digits_toDigits _).exists_cons
      exact ⟨c, ds, hds, .inl hc⟩
    | positive h =>
      obtain ⟨c, t', ht, hc⟩ := h.exists_cons
      exact ⟨c, t', ht, .inl hc⟩
    | minus | negative => exact ⟨_, _, rfl, .inr rfl⟩
  | _ => exact ⟨_, _, rfl, rfl⟩

theorem WrittenMember.opens {name : String} {j : Json} {t : Input}
    (h : WrittenMember k name j t) : ∃ t', t = '"' :: t' := by
  cases h with
  | mk => exact ⟨_, rfl⟩

theorem isSpace_of_isDigit {c : Char} (h : isDigit c = true) : isSpace c = false := by
  cases hs : isSpace c with
  | false => rfl
  | true =>
    have hd := not_digit_of_ends (s := [c]) (fun d hd => .inl (Option.some.inj hd ▸ hs)) c rfl
    rw [h] at hd
    exact hd

theorem Opens.not_space {j : Json} {c : Char} (h : Opens j c) : isSpace c = false := by
  match j, h with
  | .number _, .inl h => exact isSpace_of_isDigit h
  | .number _, .inr h => rw [h]; rfl
  | .boolean true, rfl | .boolean false, rfl => rfl
  | .null, rfl | .text _, rfl | .array _, rfl | .object _, rfl => rfl

theorem Opens.ne_close {j : Json} {c : Char} (h : Opens j c) : c ≠ ']' := by
  rintro rfl
  match j, h with
  | .boolean true, h | .boolean false, h => simp [Opens] at h
  | .null, h | .number _, h | .text _, h | .array _, h | .object _, h => simp [Opens, isDigit] at h

theorem Opens.eq_array {j : Json} (h : Opens j '[') : ∃ items, j = .array items := by
  match j, h with
  | .array items, _ => exact ⟨items, rfl⟩
  | .boolean true, h | .boolean false, h => simp [Opens] at h
  | .null, h | .number _, h | .text _, h | .object _, h => simp [Opens, isDigit] at h

theorem Opens.eq_object {j : Json} (h : Opens j '\x7b') : ∃ members, j = .object members := by
  match j, h with
  | .object members, _ => exact ⟨members, rfl⟩
  | .boolean true, h | .boolean false, h => simp [Opens] at h
  | .null, h | .number _, h | .text _, h | .array _, h => simp [Opens, isDigit] at h

theorem ends_of_blank_append {w : Input} (hw : Blank w) {c : Char}
    (hc : c = ',' ∨ c = ']' ∨ c = '\x7d') (s : Input) : Ends (w ++ c :: s) := by
  intro d hd
  cases w with
  | nil => exact .inr (by simpa [← Option.some.inj hd] using hc)
  | cons b w => exact .inl (Option.some.inj hd ▸ hw b List.mem_cons_self)

theorem WrittenItems.ends {items : List Json} {u : Input} (h : WrittenItems k items u) (s : Input) :
    Ends (u ++ s) := by
  cases h with
  | close hw => rw [List.append_assoc]; exact ends_of_blank_append hw (by decide) _
  | next hw => rw [List.append_assoc]; exact ends_of_blank_append hw (by decide) _

theorem WrittenMembers.ends {members : List (String × Json)} {u : Input}
    (h : WrittenMembers k members u) (s : Input) : Ends (u ++ s) := by
  cases h with
  | close hw => rw [List.append_assoc]; exact ends_of_blank_append hw (by decide) _
  | next hw => rw [List.append_assoc]; exact ends_of_blank_append hw (by decide) _

theorem follows_of_ends {s : Input} (h : Ends s) (j : Json) : Follows j s := by
  cases j <;> first | exact h | trivial

theorem ends_nil : Ends [] := nofun

theorem WrittenItems.length_le {items : List Json} {u : Input} (h : WrittenItems k items u) :
    items.length < u.length := by
  induction items generalizing u with
  | nil => cases h with | close => simp
  | cons j items ih =>
    cases h with
    | next _ _ _ hu =>
      have h := ih hu
      simp only [List.length_append, List.length_cons]
      omega

theorem WrittenMembers.length_le {members : List (String × Json)} {u : Input}
    (h : WrittenMembers k members u) : members.length < u.length := by
  induction members generalizing u with
  | nil => cases h with | close => simp
  | cons j members ih =>
    cases h with
    | next _ _ _ hu =>
      have h := ih hu
      simp only [List.length_append, List.length_cons]
      omega

/-! ## Separators -/

theorem nextItem?_close {w : Input} (hw : Blank w) (first : Bool) (s : Input) :
    nextItem? first (w ++ ']' :: s) = .ok none := by
  rw [nextItem?, skipSpaces_blank_cons hw (by decide)]
  rfl

theorem nextItem?_first_of_opens {w : Input} (hw : Blank w) {j : Json} {c : Char} (hc : Opens j c)
    (s : Input) : nextItem? true (w ++ c :: s) = .ok (some (c :: s)) := by
  rw [nextItem?, skipSpaces_blank_cons hw hc.not_space]
  split
  · next h => cases h
  · next h => exact absurd (List.cons.inj h).1 hc.ne_close
  · next h =>
    obtain ⟨rfl, rfl⟩ := List.cons.inj h
    rfl

theorem nextItem?_next_of_opens {w w' : Input} (hw : Blank w) (hw' : Blank w') {j : Json} {c : Char}
    (hc : Opens j c) (s : Input) :
    nextItem? false (w ++ ',' :: (w' ++ c :: s)) = .ok (some (c :: s)) := by
  rw [nextItem?, skipSpaces_blank_cons hw (by decide)]
  split
  · next h => cases h
  · next h => exact absurd (List.cons.inj h).1 (by decide)
  · next h =>
    obtain ⟨rfl, rfl⟩ := List.cons.inj h
    rw [if_neg (by decide), if_pos rfl, skipSpaces_blank_cons hw' hc.not_space]
    split
    · next h => cases h
    · next h => exact absurd (List.cons.inj h).1 hc.ne_close
    · rfl

theorem nextItem?_first {w t : Input} {j : Json} (hw : Blank w) (hj : Written k j t) (s : Input) :
    nextItem? true (w ++ (t ++ s)) = .ok (some (t ++ s)) := by
  obtain ⟨c, t', rfl, hc⟩ := hj.opens
  exact nextItem?_first_of_opens hw hc (t' ++ s)

theorem nextItem?_next {w w' t : Input} {j : Json} (hw : Blank w) (hw' : Blank w')
    (hj : Written k j t) (s : Input) :
    nextItem? false (w ++ ',' :: (w' ++ (t ++ s))) = .ok (some (t ++ s)) := by
  obtain ⟨c, t', rfl, hc⟩ := hj.opens
  exact nextItem?_next_of_opens hw hw' hc (t' ++ s)

theorem nextName?_close {w : Input} (hw : Blank w) (first : Bool) (s : Input) :
    nextName? first (w ++ '\x7d' :: s) = .ok none := by
  rw [nextName?, skipSpaces_blank_cons hw (by decide)]
  rfl

theorem nextName?_first {w : Input} (hw : Blank w) (s : Input) :
    nextName? true (w ++ '"' :: s) = .ok (some s) := by
  rw [nextName?, skipSpaces_blank_cons hw (by decide)]
  rfl

theorem nextName?_next {w w' : Input} (hw : Blank w) (hw' : Blank w') (s : Input) :
    nextName? false (w ++ ',' :: (w' ++ '"' :: s)) = .ok (some s) := by
  rw [nextName?, skipSpaces_blank_cons hw (by decide)]
  split
  · next h => cases h
  · next h => exact absurd (List.cons.inj h).1 (by decide)
  · next h =>
    obtain ⟨rfl, rfl⟩ := List.cons.inj h
    rw [if_neg (by decide), if_pos rfl, skipSpaces_blank_cons hw' (by decide)]
    rfl

theorem readColon_blank {w : Input} (hw : Blank w) (s : Input) :
    readColon (w ++ ':' :: s) = .ok s := by
  rw [readColon, skipSpaces_blank_cons hw (by decide)]
  rfl

theorem enclosed_ok {inside : Reader α} {close : Input → Except Failure Input}
    {leave : Input → Input} {s t u : Input} {a : α} (hi : inside s = .ok (a, t))
    (hc : close t = .ok u) : enclosed inside close leave s = .ok (a, u) := by
  unfold enclosed
  rw [hi]
  dsimp only
  rw [hc]

/-! ## Arrays and objects -/

theorem readItemsIn_rest {item : Reader α} {items : List Json} {as : List α}
    (h : List.Forall₂ (Takes item) items as) {u s : Input} (hu : WrittenItems .exact items u)
    {turns : Nat} (ht : items.length < turns) :
    readItemsIn item turns false (u ++ s) = .ok (as, ']' :: s) := by
  induction h generalizing u turns with
  | nil =>
    obtain ⟨turns, rfl⟩ : ∃ n, turns = n + 1 := ⟨turns - 1, by omega⟩
    cases hu with
    | close hw =>
      rw [List.append_assoc, List.singleton_append, readItemsIn, nextItem?_close hw]
      dsimp only
      rw [skipSpaces_blank_cons hw (by decide)]
  | cons hj _ ih =>
    obtain ⟨turns, rfl⟩ : ∃ n, turns = n + 1 := ⟨turns - 1, by omega⟩
    cases hu with
    | next hw hw' hjt hu =>
      rw [List.append_assoc, List.cons_append, List.append_assoc, List.append_assoc, readItemsIn,
        nextItem?_next hw hw' hjt]
      dsimp only
      have hi := hj blank_nil hjt (follows_of_ends (hu.ends s) _)
      rw [List.nil_append] at hi
      rw [hi]
      dsimp only
      rw [ih hu (by simpa using ht)]

theorem readItems_takes {item : Reader α} {items : List Json} {as : List α}
    (h : List.Forall₂ (Takes item) items as) {t s : Input}
    (ht : Written .exact (.array items) ('[' :: t)) :
    readItems item true (t ++ s) = .ok (as, ']' :: s) := by
  unfold readItems
  cases ht with
  | emptyArray hw =>
    cases h
    rw [List.append_assoc, List.singleton_append, readItemsIn, nextItem?_close hw]
    dsimp only
    rw [skipSpaces_blank_cons hw (by decide)]
  | array hw hj hu =>
    cases h with
    | cons hja hrest =>
      rw [List.append_assoc, List.append_assoc, readItemsIn, nextItem?_first hw hj]
      dsimp only
      have hi := hja blank_nil hj (follows_of_ends (hu.ends s) _)
      rw [List.nil_append] at hi
      rw [hi]
      dsimp only
      have hl := hu.length_le
      rw [readItemsIn_rest hrest hu (by simp only [List.length_append]; omega)]

theorem inList_takes {item : Reader α} {items : List Json} {as : List α}
    (h : List.Forall₂ (Takes item) items as) {t s : Input}
    (ht : Written .exact (.array items) ('[' :: t)) :
    inList (readItems item true) (t ++ s) = .ok (as, s) :=
  enclosed_ok (readItems_takes h ht) (by rw [closeList, skipSpaces_cons (by decide)]; rfl)

/-- One turn over a member: its name is read, and the step takes what follows it. -/
theorem member_turn {member : String → σ → Reader σ} {a b : σ} {name : String} {j : Json}
    (h : TakesAfterName (member name a) j b) {t s : Input} (ht : WrittenMember .exact name j t)
    (hs : Follows j s) : ∃ r r', t ++ s = '"' :: r ∧ readText r = .ok (name, r') ∧
      member name a r' = .ok (b, s) := by
  cases ht with
  | mk hn hw hw' hj =>
    refine ⟨_, _, List.cons_append, ?_, h hw hw' hj hs⟩
    simp only [List.append_assoc, List.cons_append]
    exact readText_written hn _

theorem readMembersIn_rest {member : String → σ → Reader σ} {a b : σ}
    {members : List (String × Json)} (h : Steps member a members b) {u s : Input}
    (hu : WrittenMembers .exact members u) {turns : Nat} (ht : members.length < turns) :
    readMembersIn member turns false a (u ++ s) = .ok (b, '\x7d' :: s) := by
  induction h generalizing u turns with
  | done =>
    obtain ⟨turns, rfl⟩ : ∃ n, turns = n + 1 := ⟨turns - 1, by omega⟩
    cases hu with
    | close hw =>
      rw [List.append_assoc, List.singleton_append, readMembersIn, nextName?_close hw]
      dsimp only
      rw [skipSpaces_blank_cons hw (by decide)]
  | step hm _ ih =>
    obtain ⟨turns, rfl⟩ : ∃ n, turns = n + 1 := ⟨turns - 1, by omega⟩
    cases hu with
    | next hw hw' hjt hu =>
      obtain ⟨r, r', hr, htext, hmem⟩ := member_turn hm hjt (follows_of_ends (hu.ends s) _)
      rw [List.append_assoc, List.cons_append, List.append_assoc, List.append_assoc, hr,
        readMembersIn, nextName?_next hw hw']
      dsimp only
      rw [htext]
      dsimp only
      rw [hmem]
      dsimp only
      exact ih hu (by simpa using ht)

theorem readMembers_takes {member : String → σ → Reader σ} {a b : σ}
    {members : List (String × Json)} (h : Steps member a members b) {t s : Input}
    (ht : Written .exact (.object members) ('\x7b' :: t)) :
    readMembers member a (t ++ s) = .ok (b, '\x7d' :: s) := by
  unfold readMembers
  cases ht with
  | emptyObject hw =>
    cases h
    rw [List.append_assoc, List.singleton_append, readMembersIn, nextName?_close hw]
    dsimp only
    rw [skipSpaces_blank_cons hw (by decide)]
  | object hw hj hu =>
    cases h with
    | step hm hrest =>
      obtain ⟨r, r', hr, htext, hmem⟩ := member_turn hm hj (follows_of_ends (hu.ends s) _)
      have hl := hu.length_le
      have hlen := congrArg List.length hr
      simp only [List.length_append, List.length_cons] at hlen
      rw [List.append_assoc, List.append_assoc, hr, readMembersIn, nextName?_first hw]
      dsimp only
      rw [htext]
      dsimp only
      rw [hmem]
      dsimp only
      refine readMembersIn_rest hrest hu ?_
      simp only [List.length_append, List.length_cons]
      omega

theorem closeObject_brace (s : Input) : closeObject ('\x7d' :: s) = .ok s := by
  rw [closeObject, skipSpaces_cons (by decide)]
  rfl

theorem inObject_takes {inside : Reader α} {a : α} {t s : Input}
    (h : inside (t ++ s) = .ok (a, '\x7d' :: s)) : inObject inside (t ++ s) = .ok (a, s) :=
  enclosed_ok h (closeObject_brace s)

/-! ## Values of any kind -/

theorem readScalar_digit {c : Char} (hc : isDigit c = true) (s : Input) :
    readScalar (c :: s) = (readNumeral false (c :: s)).map fun (n, s) => (.number n, s) := by
  rw [readScalar, if_pos hc]
  all_goals (rintro rfl; exact absurd hc (by decide))

theorem readScalar_takes {j : Json} (ha : ∀ items, j ≠ .array items)
    (ho : ∀ members, j ≠ .object members) {t s : Input} (ht : Written .exact j t)
    (hs : Follows j s) : readScalar (t ++ s) = .ok (j, s) := by
  cases ht with
  | null | yes | no => rfl
  | text h =>
    rw [List.cons_append, List.append_assoc, List.singleton_append, readScalar, readText_written h]
    rfl
  | number h =>
    cases h with
    | @natural _ n hn =>
      have hr := readNumeral_toDigits hn false hs
      obtain ⟨c, t', hd, hc⟩ := (digits_toDigits n).exists_cons
      rw [hd, List.cons_append] at hr ⊢
      rw [readScalar_digit hc, hr]
      rfl
    | minus hn =>
      rw [List.cons_append, readScalar, readNumeral_toDigits hn true hs]
      rfl
  | emptyArray => exact absurd rfl (ha _)
  | array => exact absurd rfl (ha _)
  | emptyObject => exact absurd rfl (ho _)
  | object => exact absurd rfl (ho _)

/-- What opens neither an array nor an object is read as a scalar. -/
theorem readTree_opens {j : Json} (ha : ∀ items, j ≠ .array items)
    (ho : ∀ members, j ≠ .object members) (room : Nat) {w : Input} (hw : Blank w) {c : Char}
    (hc : Opens j c) (s : Input) : readTree room (w ++ c :: s) = readScalar (c :: s) := by
  have hsquare : c ≠ '[' := by
    rintro rfl
    obtain ⟨items, hj⟩ := hc.eq_array
    exact ha items hj
  have hcurly : c ≠ '\x7b' := by
    rintro rfl
    obtain ⟨members, hj⟩ := hc.eq_object
    exact ho members hj
  cases room <;> rw [readTree, skipSpaces_blank_cons hw hc.not_space] <;> split
  all_goals first
    | next h' => exact absurd (List.cons.inj h').1 hsquare
    | next h' => exact absurd (List.cons.inj h').1 hcurly
    | rfl

theorem readTree_scalar {j : Json} (ha : ∀ items, j ≠ .array items)
    (ho : ∀ members, j ≠ .object members) (room : Nat) : Takes (readTree room) j j := by
  intro w t s hw ht hs
  have h := readScalar_takes ha ho ht hs
  obtain ⟨c, t', rfl, hc⟩ := ht.opens
  exact (readTree_opens ha ho room hw hc (t' ++ s)).trans h

theorem readTree_array (room : Nat) {w : Input} (hw : Blank w) (s : Input) :
    readTree (room + 1) (w ++ '[' :: s) =
      (inList (readItems (readTree room) true) s).map fun (items, s) => (.array items, s) := by
  rw [readTree, skipSpaces_blank_cons hw (by decide)]
  rfl

theorem readTree_object (room : Nat) {w : Input} (hw : Blank w) (s : Input) :
    readTree (room + 1) (w ++ '\x7b' :: s) =
      (inObject (readMembers (readTreeMember (readTree room)) []) s).map fun (members, s) =>
        (.object members.reverse, s) := by
  rw [readTree, skipSpaces_blank_cons hw (by decide)]
  rfl

theorem readTreeMember_takes {value : Reader Json} {j : Json} (h : Takes value j j) (name : String)
    (members : List (String × Json)) :
    TakesAfterName (readTreeMember value name members) j ((name, j) :: members) := by
  intro w w' t s hw hw' hj hs
  rw [readTreeMember, readColon_blank hw]
  dsimp only
  rw [h hw' hj hs]

/-- A list of members that are read one by one is kept with the last first. -/
theorem steps_readTreeMember {value : Reader Json} {members : List (String × Json)}
    (h : ∀ p ∈ members, Takes value p.2 p.2) (before : List (String × Json)) :
    Steps (readTreeMember value) before members (members.reverse ++ before) := by
  induction members generalizing before with
  | nil => exact .done
  | cons p members ih =>
    rw [List.reverse_cons, List.append_assoc]
    exact .step (readTreeMember_takes (h p List.mem_cons_self) p.1 before)
      (ih (fun q hq => h q (List.mem_cons_of_mem p hq)) _)

/-- With room for its depth, a tree is read from each of its texts. -/
theorem readTree_takes {room : Nat} {j : Json} (hd : j.depth ≤ room) :
    Takes (readTree room) j j := by
  induction room generalizing j with
  | zero =>
    refine readTree_scalar ?_ ?_ 0
    · rintro items rfl
      obtain ⟨room, hroom, -⟩ := room_of_depth_array hd
      cases hroom
    · rintro members rfl
      obtain ⟨room, hroom, -⟩ := room_of_depth_object hd
      cases hroom
  | succ room ih =>
    cases j with
    | null | boolean | number | text =>
      exact readTree_scalar (fun _ => Json.noConfusion) (fun _ => Json.noConfusion) _
    | array items =>
      have hitems : List.Forall₂ (Takes (readTree room)) items items :=
        List.forall₂_same.mpr fun k hk => ih (depth_array_le.mp hd k hk)
      intro w t s hw ht _
      obtain ⟨c, t', rfl, rfl⟩ := ht.opens
      rw [List.cons_append, readTree_array room hw, inList_takes hitems ht]
      rfl
    | object members =>
      have hsteps : Steps (readTreeMember (readTree room)) [] members (members.reverse ++ []) :=
        steps_readTreeMember (fun p hp => ih (depth_object_le.mp hd p hp)) []
      intro w t s hw ht _
      obtain ⟨c, t', rfl, rfl⟩ := ht.opens
      rw [List.cons_append, readTree_object room hw, inObject_takes (readMembers_takes hsteps ht)]
      simp [Except.map]

end SubscriberContract.Json
