import Mathlib.Data.List.TakeWhile
import SubscriberContract.Text.Blank

/-!
# Trimmed texts

Trimming takes the blanks from the two ends of a text and leaves what stands between them as it is,
blanks inside included. `TrimsTo` says so without an order in which the ends are looked at, and
`trimBlanks_eq_iff` says that trimming finds exactly this text.
-/

namespace SubscriberContract.Text

/-- A text of blanks only; the empty text is one. -/
def AllBlank (s : List Char) : Prop := ∀ c ∈ s, isBlank c = true

instance : DecidablePred AllBlank := List.decidableBAll _

/-- The second text is the first without the blanks around it. -/
structure TrimsTo (s t : List Char) : Prop where
  around : ∃ l r, AllBlank l ∧ AllBlank r ∧ s = l ++ (t ++ r)
  starts : ∀ c ∈ t.head?, isBlank c = false
  ends : ∀ c ∈ t.getLast?, isBlank c = false

theorem AllBlank.append {l r : List Char} (hl : AllBlank l) (hr : AllBlank r) :
    AllBlank (l ++ r) := by
  intro c hc
  rcases List.mem_append.mp hc with hc | hc
  · exact hl c hc
  · exact hr c hc

theorem AllBlank.reverse {s : List Char} (h : AllBlank s) : AllBlank s.reverse := by
  intro c hc
  exact h c (List.mem_reverse.mp hc)

theorem allBlank_takeWhile (s : List Char) : AllBlank (s.takeWhile isBlank) := by
  intro c hc
  exact List.mem_takeWhile_imp hc

theorem dropWhile_of_allBlank {s : List Char} (h : AllBlank s) : s.dropWhile isBlank = [] :=
  List.dropWhile_eq_nil_iff.mpr h

/-- What is left of a text from its first character on that is no blank. -/
theorem dropWhile_blank_append {l t : List Char} (hl : AllBlank l)
    (ht : ∀ c ∈ t.head?, isBlank c = false) : (l ++ t).dropWhile isBlank = t := by
  rw [List.dropWhile_append_of_pos hl]
  cases t with
  | nil => rfl
  | cons c t =>
    have hc : isBlank c = false := ht c rfl
    exact List.dropWhile_cons_of_neg (by simp [hc])

theorem head?_dropWhile_blank (s : List Char) :
    ∀ c ∈ (s.dropWhile isBlank).head?, isBlank c = false := by
  intro c hc
  have h := List.head?_dropWhile_not isBlank s
  rw [Option.mem_def.mp hc] at h
  simpa using h

theorem TrimsTo.nil_iff {s : List Char} : TrimsTo s [] ↔ AllBlank s := by
  constructor
  · rintro ⟨⟨l, r, hl, hr, rfl⟩, -, -⟩
    exact hl.append hr
  · intro h
    exact ⟨⟨s, [], h, nofun, by simp⟩, nofun, nofun⟩

theorem TrimsTo.eq_trimBlanks {s t : List Char} (h : TrimsTo s t) : trimBlanks s = t := by
  obtain ⟨⟨l, r, hl, hr, hs⟩, hstarts, hends⟩ := h
  unfold trimBlanks
  by_cases ht : t = []
  · subst ht
    have hblank : AllBlank s := by
      rw [hs]
      exact hl.append hr
    rw [dropWhile_of_allBlank hblank]
    rfl
  · have hhead : ∀ c ∈ (t ++ r).head?, isBlank c = false := by
      cases t with
      | nil => exact absurd rfl ht
      | cons => exact hstarts
    have hlast : ∀ c ∈ t.reverse.head?, isBlank c = false := by
      rwa [List.head?_reverse]
    rw [hs, dropWhile_blank_append hl hhead, List.reverse_append,
      dropWhile_blank_append hr.reverse hlast, List.reverse_reverse]

/-- A text is what stands before the blanks at its end, and these blanks. -/
theorem split_at_end (s : List Char) :
    s = (s.reverse.dropWhile isBlank).reverse ++ (s.reverse.takeWhile isBlank).reverse := by
  calc s = (s.reverse.takeWhile isBlank ++ s.reverse.dropWhile isBlank).reverse := by
        rw [List.takeWhile_append_dropWhile, List.reverse_reverse]
    _ = _ := List.reverse_append

theorem trimsTo_trimBlanks (s : List Char) : TrimsTo s (trimBlanks s) := by
  -- the blanks in front go first, and what follows them is looked at from its end
  have hrest := split_at_end (s.dropWhile isBlank)
  refine ⟨⟨s.takeWhile isBlank, ((s.dropWhile isBlank).reverse.takeWhile isBlank).reverse,
    allBlank_takeWhile s, (allBlank_takeWhile _).reverse, ?_⟩, ?_, ?_⟩
  · unfold trimBlanks
    rw [← hrest]
    exact List.takeWhile_append_dropWhile.symm
  · intro c hc
    unfold trimBlanks at hc
    refine head?_dropWhile_blank s c ?_
    rw [hrest, List.head?_append, Option.mem_def.mp hc]
    rfl
  · intro c hc
    unfold trimBlanks at hc
    rw [List.getLast?_reverse] at hc
    exact head?_dropWhile_blank _ c hc

/-- Trimming gives the text without the blanks around it, and no other. -/
theorem trimBlanks_eq_iff {s t : List Char} : trimBlanks s = t ↔ TrimsTo s t := by
  constructor
  · rintro rfl
    exact trimsTo_trimBlanks s
  · exact TrimsTo.eq_trimBlanks

theorem trimBlanks_eq_nil_iff {s : List Char} : trimBlanks s = [] ↔ AllBlank s :=
  trimBlanks_eq_iff.trans TrimsTo.nil_iff

end SubscriberContract.Text
