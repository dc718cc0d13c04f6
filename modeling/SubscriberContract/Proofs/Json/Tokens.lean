import SubscriberContract.Json.Tree
import SubscriberContract.Proofs.Json.Written

/-!
# Reading back tokens

White space is passed over, a string is read back from its escapes, and an integer below `2 ^ 64`
from its digits. Each statement leaves room for the text that follows.
-/

namespace SubscriberContract.Json

/-! ## White space -/

theorem skipSpaces_blank_append {w : Input} (hw : Blank w) (s : Input) :
    skipSpaces (w ++ s) = skipSpaces s := List.dropWhile_append_of_pos hw

theorem skipSpaces_cons {c : Char} (hc : isSpace c = false) (s : Input) :
    skipSpaces (c :: s) = c :: s := by
  unfold skipSpaces
  rw [List.dropWhile_cons_of_neg (by simp [hc])]

theorem skipSpaces_blank_cons {w : Input} (hw : Blank w) {c : Char} (hc : isSpace c = false)
    (s : Input) : skipSpaces (w ++ c :: s) = c :: s := by
  rw [skipSpaces_blank_append hw, skipSpaces_cons hc]

/-! ## Strings -/

theorem readChars_plain {c : Char} (hq : c ≠ '"') (hb : c ≠ '\\') (hc : ¬ c < ' ') (s : Input) :
    readChars (c :: s) = consChar c (readChars s) := by
  rw [readChars, if_neg hc]
  all_goals simp_all

theorem readChars_short {c e : Char} (h : unescape? e = some c) (s : Input) :
    readChars ('\\' :: e :: s) = consChar c (readChars s) := by
  unfold unescape? at h
  split at h <;> cases h <;> rfl

/-- Four hexadecimal digits stand for a number only if each does. -/
theorem hexValues_of_hexQuad? {a b c d : Char} {n : Nat} (h : hexQuad? a b c d = some n) :
    (∃ m, hexValue? a = some m) ∧ (∃ m, hexValue? b = some m) ∧ (∃ m, hexValue? c = some m) ∧
      ∃ m, hexValue? d = some m := by
  unfold hexQuad? at h
  simp only [Option.bind_eq_bind, Option.bind_eq_some_iff] at h
  obtain ⟨ma, ha, mb, hb, mc, hc, md, hd, -⟩ := h
  exact ⟨⟨ma, ha⟩, ⟨mb, hb⟩, ⟨mc, hc⟩, md, hd⟩

theorem not_isTrailing_of_isLeading {n : Nat} (h : isLeading n = true) : isTrailing n = false := by
  simp only [isLeading, isTrailing, Bool.and_eq_true, decide_eq_true_eq] at *
  simp only [Bool.and_eq_false_iff, decide_eq_false_iff_not]
  omega

theorem readChars_writtenChar {c : Char} {u : Input} (h : WrittenChar c u) (s : Input) :
    readChars (u ++ s) = consChar c (readChars s) := by
  cases h with
  | plain hq hb hc => exact readChars_plain hq hb hc s
  | short he => exact readChars_short he s
  | code hn hl ht =>
    simp only [List.cons_append, List.nil_append]
    rw [readChars, hn]
    simp only [hl, ht]
    rfl
  | pair hn hl hm ht =>
    simp only [List.cons_append, List.nil_append]
    rw [readChars, hn]
    simp only [not_isTrailing_of_isLeading hl, hl, hm, ht]
    rfl

theorem readChars_written {cs : List Char} {t : Input} (h : WrittenChars cs t) (s : Input) :
    readChars (t ++ '"' :: s) = .ok (cs, s) := by
  induction h with
  | nil => rfl
  | cons hc _ ih =>
    rw [List.append_assoc, readChars_writtenChar hc, ih]
    rfl

/-- A string is read back after its opening quote. -/
theorem readText_written {name : String} {t : Input} (h : WrittenText .exact name t) (s : Input) :
    readText (t ++ '"' :: s) = .ok (name, s) := by
  cases h with
  | text h =>
    unfold readText
    rw [readChars_written h]
    show Except.ok (String.ofList name.toList, s) = _
    rw [String.ofList_toList]

/-! ## Integers -/

theorem not_digit_of_ends {s : Input} (h : Ends s) : ∀ c ∈ s.head?, isDigit c = false := by
  intro c hc
  rcases h c hc with h | rfl | rfl | rfl
  · simp only [isSpace, Bool.or_eq_true, beq_iff_eq] at h
    rcases h with ((rfl | rfl) | rfl) | rfl <;> rfl
  · rfl
  · rfl
  · rfl

theorem isDigit_of_mem_toDigits {n : Nat} {c : Char} (h : c ∈ Nat.toDigits 10 n) :
    isDigit c = true := Nat.isDigit_of_mem_toDigits (by decide) (by decide) h

theorem takeDigits_append {ds s : Input} (hd : ∀ c ∈ ds, isDigit c = true)
    (hs : ∀ c ∈ s.head?, isDigit c = false) : takeDigits (ds ++ s) = (ds, s) := by
  unfold takeDigits
  rw [List.takeWhile_append_of_pos hd, List.dropWhile_append_of_pos hd]
  cases s with
  | nil => simp
  | cons c s =>
    have hc : isDigit c = false := hs c rfl
    simp [hc]

/-- Digits only add to a number. -/
theorem le_ofDigitChars (ds : List Char) (n : Nat) : n ≤ Nat.ofDigitChars 10 ds n := by
  induction ds generalizing n with
  | nil => exact Nat.le_refl n
  | cons d ds ih =>
    rw [Nat.ofDigitChars_cons]
    have h := ih (10 * n + (d.toNat - '0'.toNat))
    omega

theorem extend_of_lt {ds : List Char} {n : Nat} (h : Nat.ofDigitChars 10 ds n < UInt64.size) :
    extend n ds = (Nat.ofDigitChars 10 ds n, ds.length, []) := by
  induction ds generalizing n with
  | nil => rfl
  | cons d ds ih =>
    rw [Nat.ofDigitChars_cons] at h ⊢
    have hd : n * 10 + digitValue d = 10 * n + (d.toNat - '0'.toNat) := by
      rw [digitValue, Nat.mul_comm]
    rw [extend, hd, if_pos (Nat.lt_of_le_of_lt (le_ofDigitChars ds _) h), ih h]
    rfl

/-- Only zero is written with a leading zero. -/
theorem head?_toDigits {n : Nat} (hn : 0 < n) : (Nat.toDigits 10 n).head? ≠ some '0' := by
  induction n using Nat.strongRecOn with
  | ind n ih =>
    by_cases h : n < 10
    · rw [Nat.toDigits_of_lt_base h]
      have hd : ∀ n < 10, 0 < n → [n.digitChar].head? ≠ some '0' := by decide
      exact hd n h hn
    · rw [Nat.toDigits_of_base_le (by decide) (by omega),
        List.head?_append, List.head?_eq_some_head Nat.toDigits_ne_nil, Option.some_or,
        ← List.head?_eq_some_head]
      exact ih (n / 10) (by omega) (by omega)

theorem readNumeral_digits {ds : Input} (hd : Digits ds) (hz : ds.head? = some '0' → ds = ['0'])
    (hv : Nat.ofDigitChars 10 ds 0 < UInt64.size) (negative : Bool) {s : Input} (hs : Ends s) :
    readNumeral negative (ds ++ s) =
      .ok (if negative then .minus (Nat.ofDigitChars 10 ds 0)
        else .natural (Nat.ofDigitChars 10 ds 0), s) := by
  unfold readNumeral
  rw [takeDigits_append hd.2 (not_digit_of_ends hs)]
  split
  · next h => exact absurd (Prod.mk.inj h).1 hd.1
  · next h => exact absurd (Prod.mk.inj h).1 hd.1
  · next h =>
    obtain ⟨rfl, -⟩ := Prod.mk.inj h
    cases hz rfl
  · next h =>
    obtain ⟨rfl, rfl⟩ := Prod.mk.inj h
    rw [extend_of_lt hv]
    dsimp only
    split
    · next h => exact absurd (hs '.' rfl) (by decide)
    · next h => exact absurd (hs 'e' rfl) (by decide)
    · next h => exact absurd (hs 'E' rfl) (by decide)
    · cases negative with
      | false => rfl
      | true =>
        rw [if_neg (by simp), if_neg (by simp), Number.minus]
        split <;> rfl

theorem digits_toDigits (n : Nat) : Digits (Nat.toDigits 10 n) :=
  ⟨Nat.toDigits_ne_nil, fun _ hc => isDigit_of_mem_toDigits hc⟩

theorem toDigits_of_head? {n : Nat} (h : (Nat.toDigits 10 n).head? = some '0') :
    Nat.toDigits 10 n = ['0'] := by
  rcases Nat.eq_zero_or_pos n with rfl | hpos
  · rfl
  · exact absurd h (head?_toDigits hpos)

theorem readNumeral_toDigits {n : Nat} (hn : n < UInt64.size) (negative : Bool) {s : Input}
    (hs : Ends s) : readNumeral negative (Nat.toDigits 10 n ++ s) =
      .ok (if negative then .minus n else .natural n, s) := by
  have hv : Nat.ofDigitChars 10 (Nat.toDigits 10 n) 0 = n := Nat.ofDigitChars_ten_toDigits
  have h := readNumeral_digits (digits_toDigits n) toDigits_of_head? (by rwa [hv]) negative hs
  rwa [hv] at h

end SubscriberContract.Json
