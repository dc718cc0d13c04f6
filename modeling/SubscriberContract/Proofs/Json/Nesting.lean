import SubscriberContract.Proofs.Json.Tokens

/-!
# How deep a text nests

The nesting of a text is counted on its characters: brackets and braces outside of strings. For each
text of a tree it is the depth of the tree.
-/

namespace SubscriberContract.Json

/-- Where a scan stands with respect to strings. -/
inductive Quoting
  | outside | inside | escaped
deriving DecidableEq, Repr

/-- How many arrays and objects are open, and how many were open at the deepest place so far. -/
structure Nest where
  opened : Nat
  deepest : Nat
  quoting : Quoting
deriving DecidableEq, Repr

def Nest.step (n : Nest) (c : Char) : Nest :=
  match n.quoting with
  | .escaped => { n with quoting := .inside }
  | .inside =>
    if c = '\\' then { n with quoting := .escaped }
    else if c = '"' then { n with quoting := .outside }
    else n
  | .outside =>
    if c = '"' then { n with quoting := .inside }
    else if c = '[' ∨ c = '\x7b' then ⟨n.opened + 1, max n.deepest (n.opened + 1), .outside⟩
    else if c = ']' ∨ c = '\x7d' then { n with opened := n.opened - 1 }
    else n

/-- How many arrays and objects are open at the deepest place of a text. -/
def nesting (t : Input) : Nat := (t.foldl Nest.step ⟨0, 0, .outside⟩).deepest

namespace Nest

/-- Scanning the text from outside of strings opens at most `k` brackets inside one another, and
closes them again. -/
def Balanced (t : Input) (k : Nat) : Prop :=
  ∀ ⦃d n⦄, d ≤ n → t.foldl step ⟨d, n, .outside⟩ = ⟨d, max n (d + k), .outside⟩

/-- The text also closes the bracket that was opened before it. -/
def Closing (t : Input) (k : Nat) : Prop :=
  ∀ ⦃d n⦄, d + 1 ≤ n → t.foldl step ⟨d + 1, n, .outside⟩ = ⟨d, max n (d + 1 + k), .outside⟩

variable {t u : Input} {k l : Nat}

theorem Balanced.append (ht : Balanced t k) (hu : Balanced u l) : Balanced (t ++ u) (max k l) := by
  intro d n hd
  rw [List.foldl_append, ht hd, hu (Nat.le_trans hd (Nat.le_max_left _ _)), Nat.max_assoc,
    Nat.add_max_add_left]

theorem Balanced.closing (ht : Balanced t k) (hu : Closing u l) : Closing (t ++ u) (max k l) := by
  intro d n hd
  rw [List.foldl_append, ht hd, hu (Nat.le_trans hd (Nat.le_max_left _ _)), Nat.max_assoc,
    Nat.add_max_add_left]

theorem Closing.opened {c : Char} (hc : c = '[' ∨ c = '\x7b') (hu : Closing u l) :
    Balanced (c :: u) (l + 1) := by
  intro d n hd
  have hstep : step ⟨d, n, .outside⟩ c = ⟨d + 1, max n (d + 1), .outside⟩ := by
    rcases hc with rfl | rfl <;> rfl
  have hmax : max (max n (d + 1)) (d + 1 + l) = max n (d + (l + 1)) := by omega
  rw [List.foldl_cons, hstep, hu (Nat.le_max_right _ _), hmax]

theorem closing_bracket {c : Char} (hc : c = ']' ∨ c = '\x7d') : Closing [c] 0 := by
  intro d n hd
  rw [Nat.add_zero, Nat.max_eq_left hd]
  rcases hc with rfl | rfl <;> rfl

/-- A character that neither opens nor closes anything. -/
def isPlain (c : Char) : Bool := c != '"' && c != '[' && c != '\x7b' && c != ']' && c != '\x7d'

theorem step_plain {c : Char} (h : isPlain c = true) (d n : Nat) :
    step ⟨d, n, .outside⟩ c = ⟨d, n, .outside⟩ := by
  simp only [isPlain, Bool.and_eq_true, bne_iff_ne] at h
  obtain ⟨⟨⟨⟨h₁, h₂⟩, h₃⟩, h₄⟩, h₅⟩ := h
  simp [step, h₁, h₂, h₃, h₄, h₅]

theorem balanced_plain (h : t.all isPlain = true) : Balanced t 0 := by
  intro d n hd
  rw [Nat.add_zero, Nat.max_eq_left hd]
  induction t with
  | nil => rfl
  | cons c t ih =>
    obtain ⟨hc, ht⟩ := Bool.and_eq_true_iff.mp (List.all_cons ▸ h)
    rw [List.foldl_cons, step_plain hc, ih ht]

theorem balanced_blank {w : Input} (hw : Blank w) : Balanced w 0 := by
  refine balanced_plain (List.all_eq_true.mpr fun c hc => ?_)
  have h := hw c hc
  simp only [isSpace, Bool.or_eq_true, beq_iff_eq] at h
  rcases h with ((rfl | rfl) | rfl) | rfl <;> rfl

theorem isPlain_of_isDigit {c : Char} (h : isDigit c = true) : isPlain c = true := by
  simp only [isPlain, Bool.and_eq_true, bne_iff_ne]
  refine ⟨⟨⟨⟨?_, ?_⟩, ?_⟩, ?_⟩, ?_⟩ <;> (rintro rfl; exact absurd h (by decide))

theorem all_isPlain_digits {ds : Input} (h : ∀ c ∈ ds, isDigit c = true) :
    ds.all isPlain = true :=
  List.all_eq_true.mpr fun c hc => isPlain_of_isDigit (h c hc)

theorem all_isPlain_unsigned (h : Unsigned t) : t.all isPlain = true := by
  cases h with
  | mk hd _ hf he =>
    rw [List.all_append, List.all_append, all_isPlain_digits hd.2, Bool.true_and,
      Bool.and_eq_true]
    constructor
    · cases hf with
      | absent => rfl
      | digits hds => rw [List.all_cons, all_isPlain_digits hds.2]; rfl
    · cases he with
      | absent => rfl
      | digits he hs hds =>
        rw [List.all_cons, List.all_append, all_isPlain_digits hds.2]
        rcases he with rfl | rfl <;> rcases hs with rfl | rfl | rfl <;> rfl

theorem balanced_numeral {k : Precision} {n : Number} (h : Numeral k n t) : Balanced t 0 := by
  refine balanced_plain ?_
  have hdigits : ∀ n, (Nat.toDigits 10 n).all isPlain = true :=
    fun _ => all_isPlain_digits fun _ hc => isDigit_of_mem_toDigits hc
  cases h with
  | natural => exact hdigits _
  | minus => rw [List.all_cons, hdigits]; rfl
  | positive h => exact all_isPlain_unsigned h
  | negative h => rw [List.all_cons, all_isPlain_unsigned h]; rfl

theorem step_hexDigit {c : Char} {n : Nat} (h : hexValue? c = some n) (d m : Nat) :
    step ⟨d, m, .inside⟩ c = ⟨d, m, .inside⟩ := by
  have hb : c ≠ '\\' := by rintro rfl; cases h
  have hq : c ≠ '"' := by rintro rfl; cases h
  exact (if_neg hb).trans (if_neg hq)

theorem foldl_piece {u : Input} (h : Piece u) (d n : Nat) :
    u.foldl step ⟨d, n, .inside⟩ = ⟨d, n, .inside⟩ := by
  cases h with
  | plain hq hb _ => exact (if_neg hb).trans (if_neg hq)
  | short _ => rfl
  | code hn =>
    obtain ⟨ha, hb, hc, hd⟩ := hexValues_of_hexQuad? hn
    simp only [List.foldl_cons, List.foldl_nil]
    show step (step (step (step ⟨d, n, .inside⟩ _) _) _) _ = _
    rw [step_hexDigit ha.choose_spec, step_hexDigit hb.choose_spec, step_hexDigit hc.choose_spec,
      step_hexDigit hd.choose_spec]

theorem balanced_quoted (h : Pieces t) : Balanced ('"' :: (t ++ ['"'])) 0 := by
  intro d n hd
  have inside : t.foldl step ⟨d, n, .inside⟩ = ⟨d, n, .inside⟩ := by
    induction h with
    | nil => rfl
    | cons hu _ ih => rw [List.foldl_append, foldl_piece hu, ih]
  rw [Nat.add_zero, Nat.max_eq_left hd, List.foldl_cons, List.foldl_append]
  show step (t.foldl step ⟨d, n, .inside⟩) '"' = _
  rw [inside]
  rfl

end Nest

open Nest

/-! ## The texts of a tree -/

variable {k : Precision}

mutual

theorem Written.balanced {j : Json} {t : Input} (h : Written k j t) : Balanced t j.depth := by
  match h with
  | .null => exact balanced_plain (t := ['n', 'u', 'l', 'l']) rfl
  | .yes => exact balanced_plain (t := ['t', 'r', 'u', 'e']) rfl
  | .no => exact balanced_plain (t := ['f', 'a', 'l', 's', 'e']) rfl
  | .number hn => exact balanced_numeral hn
  | .text hs => exact balanced_quoted hs.pieces
  | .emptyArray hw =>
    exact ((balanced_blank hw).closing (closing_bracket (.inl rfl))).opened (.inl rfl)
  | .array hw hj hu =>
    have hclosing := (balanced_blank hw).closing (hj.balanced.closing hu.closing)
    rw [Nat.zero_max] at hclosing
    exact hclosing.opened (.inl rfl)
  | .emptyObject hw =>
    exact ((balanced_blank hw).closing (closing_bracket (.inr rfl))).opened (.inr rfl)
  | .object hw hj hu =>
    have hclosing := (balanced_blank hw).closing (hj.balanced.closing hu.closing)
    rw [Nat.zero_max] at hclosing
    exact hclosing.opened (.inr rfl)

theorem WrittenItems.closing {items : List Json} {u : Input} (h : WrittenItems k items u) :
    Closing u (depthOfItems items) := by
  match h with
  | .close hw => exact (balanced_blank hw).closing (closing_bracket (.inl rfl))
  | .next hw hw' hj hu =>
    have hseparator := (balanced_blank hw).append (balanced_plain (t := [',']) rfl)
    have hclosing := (balanced_blank hw').closing (hj.balanced.closing hu.closing)
    have h := hseparator.closing hclosing
    rwa [List.append_assoc, Nat.zero_max, Nat.zero_max] at h

theorem WrittenMember.balanced {name : String} {j : Json} {t : Input}
    (h : WrittenMember k name j t) : Balanced t j.depth := by
  match h with
  | .mk hn hw hw' hj =>
    have hseparator := (balanced_blank hw).append (balanced_plain (t := [':']) rfl)
    have hvalue := hseparator.append ((balanced_blank hw').append hj.balanced)
    have h := (balanced_quoted hn.pieces).append hvalue
    rw [Nat.zero_max, Nat.zero_max, Nat.zero_max] at h
    simpa using h

theorem WrittenMembers.closing {members : List (String × Json)} {u : Input}
    (h : WrittenMembers k members u) : Closing u (depthOfMembers members) := by
  match h with
  | .close hw => exact (balanced_blank hw).closing (closing_bracket (.inr rfl))
  | .next hw hw' hj hu =>
    have hseparator := (balanced_blank hw).append (balanced_plain (t := [',']) rfl)
    have hclosing := (balanced_blank hw').closing (hj.balanced.closing hu.closing)
    have h := hseparator.closing hclosing
    rwa [List.append_assoc, Nat.zero_max, Nat.zero_max] at h

end

/-- Each text of a tree nests as deep as the tree. -/
theorem Written.nesting_eq {j : Json} {t : Input} (h : Written k j t) : nesting t = j.depth := by
  rw [nesting, h.balanced (Nat.le_refl 0)]
  simp

end SubscriberContract.Json
