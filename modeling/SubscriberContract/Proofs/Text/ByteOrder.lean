import Mathlib.Data.List.Basic
import SubscriberContract.Text.Order

/-!
# The order of texts is the order of their bytes

UTF-8 keeps the order of code points: the encodings of two characters differ at some byte of both,
and there the smaller character has the smaller byte (`encodesBefore`). So the order of texts by
code points is the order of their encodings, byte by byte (`textLE_eq_bytesLE`).
-/

namespace SubscriberContract.Text

/-- The UTF-8 encoding of a text. -/
def bytes (s : List Char) : List UInt8 := s.flatMap String.utf8EncodeChar

def byteLE (x y : UInt8) : Bool := x.toNat ≤ y.toNat

/-- The order of encodings: byte by byte, a beginning before what it begins. -/
def bytesLE : List UInt8 → List UInt8 → Bool := listLE byteLE

theorem byteLE_total (x y : UInt8) : byteLE x y || byteLE y x := by
  simpa [byteLE] using Nat.le_total x.toNat y.toNat

theorem byteLE_antisymm (x y : UInt8) (h : byteLE x y) (h' : byteLE y x) : x = y := by
  simp only [byteLE, decide_eq_true_eq] at h h'
  exact UInt8.toNat_inj.mp (Nat.le_antisymm h h')

theorem byteLE_trans (x y z : UInt8) (h : byteLE x y) (h' : byteLE y z) : byteLE x z := by
  simp only [byteLE, decide_eq_true_eq] at h h' ⊢
  exact Nat.le_trans h h'

section

variable {α : Type} [DecidableEq α] {le : α → α → Bool}

theorem listLE_append_left (s : List α) (as bs : List α) :
    listLE le (s ++ as) (s ++ bs) = listLE le as bs := by
  induction s with
  | nil => rfl
  | cons a s ih => simpa [listLE] using ih

theorem listLE_cons_of_ne {a b : α} (h : a ≠ b) (as bs : List α) :
    listLE le (a :: as) (b :: bs) = le a b := by
  rw [listLE, if_neg h]

end

/-! ## Characters -/

/-- Neither list begins the other, and the first has the smaller byte where they first differ. -/
inductive Before : List UInt8 → List UInt8 → Prop
  | here {x y : UInt8} {s t : List UInt8} (h : x.toNat < y.toNat) : Before (x :: s) (y :: t)
  | later {x : UInt8} {s t : List UInt8} (h : Before s t) : Before (x :: s) (x :: t)

/-- Two bytes given by numbers, where the rest decides if the numbers agree. -/
theorem Before.ofNat {m n : Nat} {s t : List UInt8} (hn : n < 256) (hle : m ≤ n)
    (h : m = n → Before s t) : Before (.ofNat m :: s) (.ofNat n :: t) := by
  rcases Nat.lt_or_eq_of_le hle with hlt | rfl
  · refine .here ?_
    rw [UInt8.toNat_ofNat', UInt8.toNat_ofNat']
    omega
  · exact .later (h rfl)

theorem bytesLE_of_before {x y : List UInt8} (h : Before x y) (s t : List UInt8) :
    bytesLE (x ++ s) (y ++ t) = true ∧ bytesLE (y ++ t) (x ++ s) = false := by
  unfold bytesLE
  induction h with
  | @here x y _ _ h =>
    have hne : x ≠ y := fun e => Nat.ne_of_lt h (congrArg UInt8.toNat e)
    rw [List.cons_append, List.cons_append, listLE_cons_of_ne hne, listLE_cons_of_ne hne.symm]
    simpa [byteLE] using ⟨Nat.le_of_lt h, h⟩
  | later _ ih => simpa [listLE] using ih

/-- The lead bytes of shorter encodings are smaller; between encodings of one length the highest
digit in which the code points differ decides. -/
theorem before_encoding {c d : Char} (h : c.toNat < d.toNat) :
    Before (String.utf8EncodeChar c) (String.utf8EncodeChar d) := by
  have hd : d.val.toNat < 1114112 := by
    rcases d.valid with hv | ⟨-, hv⟩ <;> omega
  have hcd : c.val.toNat < d.val.toNat := h
  unfold String.utf8EncodeChar
  generalize c.val.toNat = v at hcd
  generalize d.val.toNat = w at hcd hd
  dsimp only
  split_ifs
  all_goals first | omega | refine .ofNat (by omega) (by omega) fun h₁ => ?_
  all_goals first | omega | refine .ofNat (by omega) (by omega) fun h₂ => ?_
  all_goals first | omega | refine .ofNat (by omega) (by omega) fun h₃ => ?_
  all_goals first | omega | refine .ofNat (by omega) (by omega) fun h₄ => ?_
  all_goals omega

/-! ## Texts -/

theorem listLE_charLE_eq_bytesLE (s t : List Char) :
    listLE charLE s t = bytesLE (bytes s) (bytes t) := by
  unfold bytesLE
  induction s generalizing t with
  | nil => simp [bytes, listLE]
  | cons c s ih =>
    cases t with
    | nil =>
      obtain ⟨x, rest, hx⟩ := List.exists_cons_of_ne_nil (String.utf8EncodeChar_ne_nil (c := c))
      simp [bytes, listLE, hx]
    | cons d t =>
      have hs : bytes (c :: s) = String.utf8EncodeChar c ++ bytes s := List.flatMap_cons
      have ht : bytes (d :: t) = String.utf8EncodeChar d ++ bytes t := List.flatMap_cons
      rw [hs, ht]
      by_cases h : c = d
      · subst h
        rw [listLE_append_left, ← ih]
        simp [listLE]
      · rw [listLE_cons_of_ne h]
        rcases Nat.lt_or_gt_of_ne fun e => h (Char.toNat_inj.mp e) with hlt | hlt
        · rw [show charLE c d = true by simp [charLE, Nat.le_of_lt hlt]]
          exact (bytesLE_of_before (before_encoding hlt) _ _).1.symm
        · rw [show charLE c d = false by simp [charLE, hlt]]
          exact (bytesLE_of_before (before_encoding hlt) _ _).2.symm

theorem textLE_eq_bytesLE (s t : String) :
    textLE s t = bytesLE (bytes s.toList) (bytes t.toList) :=
  listLE_charLE_eq_bytesLE s.toList t.toList

end SubscriberContract.Text
