/-!
# The order of texts

Texts are ordered by their code points, which is also the order of their bytes in UTF-8, and lists
by the first entry in which they differ.
-/

namespace SubscriberContract.Text

/-- Whether a list comes before another one or equals it; a beginning of a list comes before it. -/
def listLE {α : Type} [DecidableEq α] (le : α → α → Bool) : List α → List α → Bool
  | [], _ => true
  | _ :: _, [] => false
  | a :: as, b :: bs => if a = b then listLE le as bs else le a b

def charLE (c d : Char) : Bool := c.toNat ≤ d.toNat

def textLE (s t : String) : Bool := listLE charLE s.toList t.toList

section

variable {α : Type} [DecidableEq α] {le : α → α → Bool}

theorem listLE_total (total : ∀ a b, le a b || le b a) (as bs : List α) :
    listLE le as bs || listLE le bs as := by
  induction as generalizing bs with
  | nil => simp [listLE]
  | cons a as ih =>
    cases bs with
    | nil => simp [listLE]
    | cons b bs =>
      by_cases h : a = b
      · simpa [listLE, h] using ih bs
      · simpa [listLE, h, Ne.symm h] using total a b

theorem listLE_antisymm (antisymm : ∀ a b, le a b → le b a → a = b) {as bs : List α}
    (h : listLE le as bs) (h' : listLE le bs as) : as = bs := by
  induction as generalizing bs with
  | nil => cases bs with
    | nil => rfl
    | cons => simp [listLE] at h'
  | cons a as ih =>
    cases bs with
    | nil => simp [listLE] at h
    | cons b bs =>
      by_cases e : a = b
      · subst e
        rw [ih (by simpa [listLE] using h) (by simpa [listLE] using h')]
      · simp only [listLE, e, Ne.symm e, if_false] at h h'
        exact absurd (antisymm a b h h') e

theorem listLE_trans (trans : ∀ a b c, le a b → le b c → le a c)
    (antisymm : ∀ a b, le a b → le b a → a = b) {as bs cs : List α}
    (h : listLE le as bs) (h' : listLE le bs cs) : listLE le as cs := by
  induction as generalizing bs cs with
  | nil => simp [listLE]
  | cons a as ih =>
    cases bs with
    | nil => simp [listLE] at h
    | cons b bs =>
      cases cs with
      | nil => simp [listLE] at h'
      | cons c cs =>
        by_cases e : a = b
        · subst e
          by_cases e' : a = c
          · subst e'
            simp only [listLE, if_true] at h h' ⊢
            exact ih h h'
          · simpa [listLE, e'] using h'
        · have hab : le a b := by simpa [listLE, e] using h
          by_cases e' : b = c
          · subst e'
            simpa [listLE, e] using hab
          · have hbc : le b c := by simpa [listLE, e'] using h'
            have hac : a ≠ c := fun hac => e (antisymm a b hab (hac ▸ hbc))
            simpa [listLE, hac] using trans a b c hab hbc

end

theorem charLE_total (c d : Char) : charLE c d || charLE d c := by
  simpa [charLE] using Nat.le_total c.toNat d.toNat

theorem charLE_antisymm (c d : Char) (h : charLE c d) (h' : charLE d c) : c = d := by
  simp only [charLE, decide_eq_true_eq] at h h'
  exact Char.toNat_inj.1 (Nat.le_antisymm h h')

theorem charLE_trans (c d e : Char) (h : charLE c d) (h' : charLE d e) : charLE c e := by
  simp only [charLE, decide_eq_true_eq] at h h' ⊢
  exact Nat.le_trans h h'

theorem textLE_total (s t : String) : textLE s t || textLE t s := listLE_total charLE_total _ _

theorem textLE_antisymm (s t : String) (h : textLE s t) (h' : textLE t s) : s = t :=
  String.toList_inj.1 (listLE_antisymm charLE_antisymm h h')

theorem textLE_trans (s t u : String) (h : textLE s t) (h' : textLE t u) : textLE s u :=
  listLE_trans charLE_trans charLE_antisymm h h'

end SubscriberContract.Text
