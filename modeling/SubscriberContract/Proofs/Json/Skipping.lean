import SubscriberContract.Json.Skip
import SubscriberContract.Proofs.Json.Taking

/-!
# Passing over a value

Whatever text of the grammar stands there, passing over it ends exactly behind it. What is open is
kept as a list of brackets, so the induction says what becomes of the list: a value leaves it as it
was, and what follows an item or member closes its bracket.
-/

namespace SubscriberContract.Json

variable {k : Precision}

/-! ## Strings and numbers -/

theorem skipChars_piece {u : Input} (h : Piece u) (s : Input) :
    skipChars (u ++ s) = skipChars s := by
  cases h with
  | plain hq hb hc =>
    rw [List.singleton_append, skipChars, if_neg hc]
    all_goals simp_all
  | short he =>
    unfold unescape? at he
    split at he <;> cases he <;> rfl
  | code hn =>
    simp only [List.cons_append, List.nil_append]
    rw [skipChars, hn]

theorem skipChars_pieces {t : Input} (h : Pieces t) (s : Input) :
    skipChars (t ++ '"' :: s) = .ok s := by
  induction h with
  | nil => rfl
  | cons hu _ ih => rw [List.append_assoc, skipChars_piece hu, ih]

/-- A fraction and an exponent are no digits. -/
theorem not_digit_of_fraction {f e s : Input} (hf : Fraction f) (he : Exponent e) (hs : Ends s) :
    ∀ c ∈ (f ++ (e ++ s)).head?, isDigit c = false := by
  cases hf with
  | digits => rintro c ⟨⟩; rfl
  | absent =>
    cases he with
    | absent => exact not_digit_of_ends hs
    | digits he =>
      rintro c ⟨⟩
      rcases he with rfl | rfl <;> rfl

theorem Numeral.unsigned {n : Number} {t : Input} (h : Numeral k n t) :
    Unsigned t ∨ ∃ t', t = '-' :: t' ∧ Unsigned t' := by
  have digits : ∀ n, Unsigned (Nat.toDigits 10 n) := by
    intro n
    have h := Unsigned.mk (digits_toDigits n) toDigits_of_head? .absent .absent
    rwa [List.append_nil, List.append_nil] at h
  cases h with
  | natural => exact .inl (digits _)
  | minus => exact .inr ⟨_, rfl, digits _⟩
  | positive h => exact .inl h
  | negative h => exact .inr ⟨_, rfl, h⟩

theorem skipExponent_digits {sign ds s : Input} (hsign : sign = [] ∨ sign = ['+'] ∨ sign = ['-'])
    (hd : Digits ds) (hs : Ends s) : skipExponent (sign ++ (ds ++ s)) = .ok s := by
  obtain ⟨c, ds, rfl, hc⟩ := hd.exists_cons
  have hplus : c ≠ '+' := by rintro rfl; exact absurd hc (by decide)
  have hminus : c ≠ '-' := by rintro rfl; exact absurd hc (by decide)
  have htake := takeDigits_append hd.2 (not_digit_of_ends hs)
  obtain rfl | rfl | rfl := hsign
  · simp only [List.nil_append, List.cons_append] at htake ⊢
    simp [skipExponent, htake, hplus, hminus]
  · simp only [List.nil_append, List.cons_append] at htake ⊢
    simp [skipExponent, htake]
  · simp only [List.nil_append, List.cons_append] at htake ⊢
    simp [skipExponent, htake]

/-- Where the digits of a number end. -/
theorem takeDigits_unsigned {ds f e s : Input} (hd : Digits ds) (hf : Fraction f)
    (he : Exponent e) (hs : Ends s) :
    takeDigits (ds ++ (f ++ e) ++ s) = (ds, f ++ (e ++ s)) := by
  rw [List.append_assoc, List.append_assoc]
  exact takeDigits_append hd.2 (not_digit_of_fraction hf he hs)

theorem skipNumeral_unsigned {t s : Input} (h : Unsigned t) (hs : Ends s) :
    skipNumeral (t ++ s) = .ok s := by
  cases h with
  | @mk ds f e hd hz hf he =>
    unfold skipNumeral
    rw [takeDigits_unsigned hd hf he hs]
    split
    · next h => exact absurd (Prod.mk.inj h).1 hd.1
    · next h =>
      obtain ⟨rfl, -⟩ := Prod.mk.inj h
      cases hz rfl
    next h =>
    obtain ⟨rfl, rfl⟩ := Prod.mk.inj h
    cases hf with
    | absent =>
      cases he with
      | absent =>
        simp only [List.nil_append]
        split
        · exact absurd (hs '.' rfl) (by decide)
        · exact absurd (hs 'e' rfl) (by decide)
        · exact absurd (hs 'E' rfl) (by decide)
        · rfl
      | digits he hsign hd =>
        have hskip := skipExponent_digits hsign hd hs
        rw [← List.append_assoc] at hskip
        rcases he with rfl | rfl <;> exact hskip
    | @digits fs hfs =>
      have htake : takeDigits (fs ++ (e ++ s)) = (fs, e ++ s) :=
        takeDigits_append hfs.2 (not_digit_of_fraction .absent he hs)
      simp only [List.cons_append]
      rw [htake]
      obtain ⟨c, fs, rfl, -⟩ := hfs.exists_cons
      cases he with
      | absent =>
        simp only [List.nil_append]
        split
        · next h => cases h
        · next h =>
          obtain ⟨-, rfl⟩ := Prod.mk.inj h
          exact absurd (hs 'e' rfl) (by decide)
        · next h =>
          obtain ⟨-, rfl⟩ := Prod.mk.inj h
          exact absurd (hs 'E' rfl) (by decide)
        · next h => rw [(Prod.mk.inj h).2]
      | digits he hsign hd =>
        have hskip := skipExponent_digits hsign hd hs
        rw [← List.append_assoc] at hskip
        rcases he with rfl | rfl <;> exact hskip

/-! ## Brackets -/

/-- What is passed over behind a value (`after`), or from directly inside a bracket. -/
def skipFrom (after : Bool) (turns : Nat) (around : Open) (s : Input) : Except Failure Input := do
  let (around, s) ← skipBetween around after s
  match around with
  | [] => .ok s
  | .square :: _ => skipIn turns around s
  | .curly :: _ => skipIn turns around (← skipName s)

theorem skipIn_of_none {s s' : Input} (h : skipStart s = .ok (none, s')) (turns : Nat)
    (around : Open) : skipIn (turns + 1) around s = skipFrom true turns around s' := by
  rw [skipIn, h]
  rfl

theorem skipIn_of_some {s s' : Input} {b : Bracket} (h : skipStart s = .ok (some b, s'))
    (turns : Nat) (around : Open) :
    skipIn (turns + 1) around s = skipFrom false turns (b :: around) s' := by
  rw [skipIn, h]
  rfl

/-- The bracket that closes what this one opened. -/
def Bracket.closing : Bracket → Char
  | .square => ']'
  | .curly => '\x7d'

variable {b : Bracket} {w : Input}

theorem skipFrom_close (hw : Blank w) (after : Bool) (turns : Nat) (around : Open) (s : Input) :
    skipFrom after turns (b :: around) (w ++ b.closing :: s) = skipFrom true turns around s := by
  have h : skipBetween (b :: around) after (w ++ b.closing :: s) = skipBetween around true s := by
    conv_lhs => unfold skipBetween
    cases b <;> rw [Bracket.closing, skipSpaces_blank_cons hw (by decide)] <;> rfl
  rw [skipFrom, h]
  rfl

theorem skipBetween_first (hw : Blank w) {c : Char} (hc : isSpace c = false) (hb : c ≠ b.closing)
    (around : Open) (s : Input) :
    skipBetween (b :: around) false (w ++ c :: s) = .ok (b :: around, c :: s) := by
  conv_lhs => unfold skipBetween
  rw [skipSpaces_blank_cons hw hc]
  cases b <;> simp_all [Bracket.closing]

theorem skipBetween_comma (hw : Blank w) (around : Open) (s : Input) :
    skipBetween (b :: around) true (w ++ ',' :: s) = .ok (b :: around, s) := by
  conv_lhs => unfold skipBetween
  rw [skipSpaces_blank_cons hw (by decide)]
  cases b <;> rfl

/-- Passing over a member: its name and its value. -/
def skipMember (turns : Nat) (around : Open) (s : Input) : Except Failure Input := do
  skipIn turns around (← skipName s)

theorem skipFrom_first_item (hw : Blank w) {c : Char} (hc : isSpace c = false) (hb : c ≠ ']')
    (turns : Nat) (around : Open) (s : Input) :
    skipFrom false turns (.square :: around) (w ++ c :: s) =
      skipIn turns (.square :: around) (c :: s) := by
  rw [skipFrom, skipBetween_first (b := .square) hw hc hb]
  rfl

theorem skipFrom_first_member (hw : Blank w) (turns : Nat) (around : Open) (s : Input) :
    skipFrom false turns (.curly :: around) (w ++ '"' :: s) =
      skipMember turns (.curly :: around) ('"' :: s) := by
  rw [skipFrom, skipBetween_first hw (by decide) (by decide)]
  rfl

theorem skipFrom_next_item (hw : Blank w) (turns : Nat) (around : Open) (s : Input) :
    skipFrom true turns (.square :: around) (w ++ ',' :: s) =
      skipIn turns (.square :: around) s := by
  rw [skipFrom, skipBetween_comma hw]
  rfl

theorem skipFrom_next_member (hw : Blank w) (turns : Nat) (around : Open) (s : Input) :
    skipFrom true turns (.curly :: around) (w ++ ',' :: s) =
      skipMember turns (.curly :: around) s := by
  rw [skipFrom, skipBetween_comma hw]
  rfl

theorem skipName_written {name : String} {u w' : Input} (hu : WrittenText k name u) (hw : Blank w)
    (hw' : Blank w') (s : Input) :
    skipName (w ++ '"' :: (u ++ '"' :: (w' ++ ':' :: s))) = .ok s := by
  rw [skipName, skipSpaces_blank_cons hw (by decide)]
  simp only [skipChars_pieces hu.pieces]
  exact readColon_blank hw' s

/-! ## Values -/

/-- From here on `t` is passed over, and then what stands around it. A turn takes a character. -/
def Skips (start : Nat → Open → Input → Except Failure Input) (t s : Input) : Prop :=
  ∀ ⦃turns : Nat⦄ (around : Open), (t ++ s).length < turns →
    ∃ turns', s.length < turns' ∧ start turns around (t ++ s) = skipFrom true turns' around s

variable {start start' : Nat → Open → Input → Except Failure Input} {t t' u s : Input}

theorem Skips.shift (h : Skips start' t' s) (hlength : t'.length ≤ t.length)
    (hstart : ∀ turns around, start turns around (t ++ s) = start' turns around (t' ++ s)) :
    Skips start t s := by
  intro turns around hturns
  rw [List.length_append] at hturns
  rw [hstart]
  exact h around (by rw [List.length_append]; omega)

/-- What follows a value inside a bracket closes the bracket. -/
theorem Skips.inside (h : Skips start t (u ++ s))
    (hu : Skips (fun turns around => skipFrom true turns (b :: around)) u s) :
    Skips (fun turns around => start turns (b :: around)) (t ++ u) s := by
  intro turns around hturns
  rw [List.append_assoc] at hturns ⊢
  obtain ⟨n, hn, hvalue⟩ := h (b :: around) hturns
  obtain ⟨m, hm, hrest⟩ := hu around hn
  exact ⟨m, hm, hvalue.trans hrest⟩

theorem skips_close (hw : Blank w) (after : Bool) (s : Input) :
    Skips (fun turns around => skipFrom after turns (b :: around)) (w ++ [b.closing]) s := by
  intro turns around hturns
  rw [List.append_assoc, List.singleton_append] at hturns ⊢
  simp only [List.length_append, List.length_cons] at hturns
  exact ⟨turns, by omega, skipFrom_close hw after turns around s⟩

theorem skipStart_blank (hw : Blank w) (s : Input) : skipStart (w ++ s) = skipStart s := by
  unfold skipStart
  rw [skipSpaces_blank_append hw]

theorem skips_scalar (hw : Blank w) (ht : t ≠ []) (h : skipStart (t ++ s) = .ok (none, s)) :
    Skips skipIn (w ++ t) s := by
  intro turns around hturns
  obtain ⟨turns, rfl⟩ : ∃ n, turns = n + 1 := ⟨turns - 1, by omega⟩
  have hpos := List.length_pos_iff.mpr ht
  rw [List.append_assoc] at hturns ⊢
  simp only [List.length_append] at hturns
  exact ⟨turns, by omega, skipIn_of_none ((skipStart_blank hw _).trans h) turns around⟩

theorem skips_opened (hw : Blank w) {c : Char}
    (hc : skipStart (c :: (t ++ s)) = .ok (some b, t ++ s))
    (h : Skips (fun turns around => skipFrom false turns (b :: around)) t s) :
    Skips skipIn (w ++ c :: t) s := by
  intro turns around hturns
  obtain ⟨turns, rfl⟩ : ∃ n, turns = n + 1 := ⟨turns - 1, by omega⟩
  rw [List.append_assoc, List.cons_append] at hturns ⊢
  simp only [List.length_append, List.length_cons] at hturns
  rw [skipIn_of_some ((skipStart_blank hw _).trans hc)]
  exact h around (by rw [List.length_append]; omega)

theorem skipStart_digit {c : Char} (hc : isDigit c = true) (s : Input) :
    skipStart (c :: s) = (skipNumeral (c :: s)).map (none, ·) := by
  unfold skipStart
  rw [skipSpaces_cons (isSpace_of_isDigit hc)]
  split
  · next h => cases h
  all_goals try
    next h =>
      rw [(List.cons.inj h).1] at hc
      exact absurd hc (by decide)
  next h =>
    obtain ⟨rfl, rfl⟩ := List.cons.inj h
    rw [if_pos hc]

theorem skips_number (hw : Blank w) {n : Number} (h : Numeral k n t) (hs : Ends s) :
    Skips skipIn (w ++ t) s := by
  obtain hu | ⟨t, rfl, hu⟩ := h.unsigned
  · have hskip := skipNumeral_unsigned hu hs
    obtain ⟨c, t, rfl, hc⟩ := hu.exists_cons
    refine skips_scalar hw (List.cons_ne_nil c t) ?_
    rw [List.cons_append] at hskip ⊢
    rw [skipStart_digit hc, hskip]
    rfl
  · refine skips_scalar hw (List.cons_ne_nil '-' t) ?_
    have hskip : skipStart ('-' :: (t ++ s)) = (skipNumeral (t ++ s)).map (none, ·) := rfl
    rw [List.cons_append, hskip, skipNumeral_unsigned hu hs]
    rfl

mutual

theorem Written.skips {j : Json} {t : Input} (h : Written k j t) {w s : Input} (hw : Blank w)
    (hs : Follows j s) : Skips skipIn (w ++ t) s := by
  match h with
  | .null | .yes | .no => exact skips_scalar hw (List.cons_ne_nil _ _) rfl
  | .number hn => exact skips_number hw hn hs
  | .text (t := x) hx =>
    refine skips_scalar hw (List.cons_ne_nil _ _) ?_
    have hskip : skipStart ('"' :: (x ++ '"' :: s)) =
        (skipChars (x ++ '"' :: s)).map (none, ·) := rfl
    rw [List.cons_append, List.append_assoc, List.singleton_append, hskip,
      skipChars_pieces hx.pieces]
    rfl
  | .emptyArray hw' => exact skips_opened (b := .square) hw rfl (skips_close hw' false s)
  | .array hw' hj hu =>
    refine skips_opened (b := .square) hw rfl ?_
    refine Skips.shift ((hj.skips blank_nil (follows_of_ends (hu.ends s) _)).inside (hu.skips s))
      (by simp) fun turns around => ?_
    obtain ⟨c, t', rfl, hc⟩ := hj.opens
    simp only [List.append_assoc, List.cons_append, List.nil_append]
    exact skipFrom_first_item hw' hc.not_space hc.ne_close turns around _
  | .emptyObject hw' => exact skips_opened (b := .curly) hw rfl (skips_close hw' false s)
  | .object hw' hj hu =>
    refine skips_opened (b := .curly) hw rfl ?_
    refine Skips.shift ((hj.skips blank_nil (follows_of_ends (hu.ends s) _)).inside (hu.skips s))
      (by simp) fun turns around => ?_
    obtain ⟨t', rfl⟩ := hj.opens
    simp only [List.append_assoc, List.cons_append, List.nil_append]
    exact skipFrom_first_member hw' turns around _

theorem WrittenItems.skips {items : List Json} {u : Input} (h : WrittenItems k items u)
    (s : Input) : Skips (fun turns around => skipFrom true turns (.square :: around)) u s := by
  match h with
  | .close hw => exact skips_close (b := .square) hw true s
  | .next hw hw' hj hu =>
    refine Skips.shift ((hj.skips hw' (follows_of_ends (hu.ends s) _)).inside (hu.skips s))
      (by simp; omega) fun turns around => ?_
    simp only [List.append_assoc, List.cons_append]
    exact skipFrom_next_item hw turns around _

theorem WrittenMember.skips {name : String} {j : Json} {t : Input} (h : WrittenMember k name j t)
    {w s : Input} (hw : Blank w) (hs : Follows j s) : Skips skipMember (w ++ t) s := by
  match h with
  | .mk hn hw' hw'' hj =>
    refine Skips.shift (hj.skips hw'' hs) (by simp; omega) fun turns around => ?_
    simp only [List.append_assoc, List.cons_append]
    rw [skipMember, skipName_written hn hw hw']
    rfl

theorem WrittenMembers.skips {members : List (String × Json)} {u : Input}
    (h : WrittenMembers k members u) (s : Input) :
    Skips (fun turns around => skipFrom true turns (.curly :: around)) u s := by
  match h with
  | .close hw => exact skips_close (b := .curly) hw true s
  | .next hw hw' hj hu =>
    refine Skips.shift ((hj.skips hw' (follows_of_ends (hu.ends s) _)).inside (hu.skips s))
      (by simp; omega) fun turns around => ?_
    simp only [List.append_assoc, List.cons_append]
    exact skipFrom_next_member hw turns around _

end

/-- Passing over a value ends behind it. -/
theorem skipValue_written {j : Json} {w t s : Input} (hw : Blank w) (ht : Written k j t)
    (hs : Follows j s) : skipValue (w ++ (t ++ s)) = .ok s := by
  obtain ⟨turns, hturns, h⟩ := ht.skips hw hs [] (Nat.lt_succ_self ((w ++ t) ++ s).length)
  rw [List.append_assoc] at h
  exact h

end SubscriberContract.Json
