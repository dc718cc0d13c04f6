import Mathlib.Data.List.TakeWhile
import SubscriberContract.Text.Cut

/-!
# Cuts, pieces, last segments and texts without a pattern

A cut at the first separator and the segment behind the last one are said without a scan: the part
that the scan goes through is free of the separator (`cutAt?_eq_some_iff`, `LastSegment`). The
pieces between separators are those in front of any one separator and those behind it
(`splitOn_append`). A text without the occurrences of a pattern is said one step at a time: an
occurrence at the front is passed over as a whole, and where there is none one character is kept
(`Erased`).
-/

namespace SubscriberContract.Text

/-! ## Cuts -/

/-- A cut is made at the first separator. -/
theorem cutAt?_eq_some_iff {sep : Char} {s l r : List Char} :
    cutAt? sep s = some (l, r) ↔ sep ∉ l ∧ s = l ++ sep :: r := by
  induction s generalizing l with
  | nil => simp [cutAt?]
  | cons c s ih =>
    rw [cutAt?]
    split
    · next h =>
      subst h
      cases l with
      | nil => simp [eq_comm]
      | cons d l =>
        constructor
        · intro h
          cases h
        · rintro ⟨hd, h⟩
          exact absurd (List.cons.inj h).1 fun e => hd (e ▸ List.mem_cons_self)
    · next h =>
      constructor
      · intro hc
        obtain ⟨⟨l', r'⟩, hcut, hr⟩ := Option.map_eq_some_iff.mp hc
        cases hr
        obtain ⟨hl, rfl⟩ := ih.mp hcut
        exact ⟨List.not_mem_cons_of_ne_of_not_mem (Ne.symm h) hl, rfl⟩
      · rintro ⟨hl, hs⟩
        cases l with
        | nil => exact absurd (List.cons.inj hs).1 h
        | cons d l =>
          obtain ⟨rfl, htail⟩ := List.cons.inj hs
          rw [ih.mpr ⟨fun hm => hl (List.mem_cons_of_mem _ hm), htail⟩]
          rfl

/-- Around a separator that occurs once, the parts of a text are determined. -/
theorem append_separator_inj {sep : Char} {a b c d : List Char} (hc : sep ∉ c) (hd : sep ∉ d) :
    a ++ sep :: b = c ++ sep :: d ↔ a = c ∧ b = d := by
  constructor
  · intro h
    have hcount := congrArg (List.count sep) h
    simp only [List.count_append, List.count_cons_self, List.count_eq_zero.mpr hc,
      List.count_eq_zero.mpr hd] at hcount
    have ha : sep ∉ a := List.count_eq_zero.mp (by omega)
    have hcut : cutAt? sep (a ++ sep :: b) = some (a, b) := cutAt?_eq_some_iff.mpr ⟨ha, rfl⟩
    have hcut' : cutAt? sep (a ++ sep :: b) = some (c, d) := cutAt?_eq_some_iff.mpr ⟨hc, h⟩
    exact Prod.mk.inj (Option.some.inj (hcut.symm.trans hcut'))
  · rintro ⟨rfl, rfl⟩
    rfl

/-! ## Pieces -/

section

variable {sep : Char}

theorem splitOn_ne_nil (sep : Char) (s : List Char) : splitOn sep s ≠ [] := by
  cases s with
  | nil => simp [splitOn]
  | cons c s =>
    rw [splitOn]
    split
    · simp
    · split <;> simp

/-- The pieces are those of the library's `List.splitOn`. -/
theorem splitOn_eq_splitOn (sep : Char) (s : List Char) : splitOn sep s = s.splitOn sep := by
  induction s with
  | nil => rfl
  | cons c s ih =>
    rw [splitOn, List.splitOn_cons_eq_if_modifyHead, ← ih]
    by_cases hc : c = sep
    · rw [if_pos hc, if_pos (beq_iff_eq.mpr hc)]
    · rw [if_neg hc, if_neg (by simpa using hc)]
      obtain ⟨p, ps, hp⟩ := List.exists_cons_of_ne_nil (splitOn_ne_nil sep s)
      rw [hp]
      rfl

theorem splitOn_of_not_mem {s : List Char} (h : sep ∉ s) : splitOn sep s = [s] := by
  rw [splitOn_eq_splitOn, List.splitOn_eq_singleton h]

theorem splitOn_append (s t : List Char) :
    splitOn sep (s ++ sep :: t) = splitOn sep s ++ splitOn sep t := by
  rw [splitOn_eq_splitOn, splitOn_eq_splitOn, splitOn_eq_splitOn, List.splitOn_append_cons_self]

theorem intercalate_splitOn (sep : Char) (s : List Char) :
    [sep].intercalate (splitOn sep s) = s := by
  rw [splitOn_eq_splitOn, List.intercalate_splitOn]

/-- There is one piece more than there are separators. -/
theorem length_splitOn (s : List Char) : (splitOn sep s).length = s.count sep + 1 := by
  induction s with
  | nil => rfl
  | cons c s ih =>
    rw [splitOn]
    by_cases hc : c = sep
    · rw [if_pos hc, hc, List.count_cons_self, List.length_cons, ih]
    · rw [if_neg hc, List.count_cons_of_ne hc, ← ih]
      obtain ⟨p, ps, hp⟩ := List.exists_cons_of_ne_nil (splitOn_ne_nil sep s)
      rw [hp]
      rfl

/-- What holds no separator extends the last piece. -/
theorem splitOn_append_of_not_mem (s : List Char) {t : List Char} (h : sep ∉ t) :
    ∃ front last, splitOn sep s = front ++ [last] ∧
      splitOn sep (s ++ t) = front ++ [last ++ t] := by
  induction s with
  | nil => exact ⟨[], [], rfl, splitOn_of_not_mem h⟩
  | cons c s ih =>
    obtain ⟨front, last, hs, hst⟩ := ih
    rw [List.cons_append, splitOn, splitOn, hs, hst]
    by_cases hc : c = sep
    · exact ⟨[] :: front, last, by simp [hc], by simp [hc]⟩
    · cases front with
      | nil => exact ⟨[], c :: last, by simp [hc], by simp [hc]⟩
      | cons p front => exact ⟨(c :: p) :: front, last, by simp [hc], by simp [hc]⟩

/-- Texts each ended by a separator are the pieces in front of an empty one. -/
theorem splitOn_flatMap_ended {pieces : List (List Char)} (h : ∀ p ∈ pieces, sep ∉ p) :
    splitOn sep (pieces.flatMap (· ++ [sep])) = pieces ++ [[]] := by
  induction pieces with
  | nil => rfl
  | cons p pieces ih =>
    obtain ⟨hp, hpieces⟩ := List.forall_mem_cons.mp h
    rw [List.flatMap_cons, List.append_assoc, List.singleton_append, splitOn_append,
      splitOn_of_not_mem hp, ih hpieces]
    rfl

end

/-! ## Segments -/

/-- The segment holds no separator and ends the text, behind a separator or as the whole of it. -/
structure LastSegment (sep : Char) (s segment : List Char) : Prop where
  free : sep ∉ segment
  ends : s = segment ∨ ∃ front, s = front ++ sep :: segment

theorem takeWhile_append_of_not_mem {sep : Char} {s : List Char} (h : sep ∉ s) (t : List Char) :
    (s ++ t).takeWhile (· ≠ sep) = s ++ t.takeWhile (· ≠ sep) := by
  refine List.takeWhile_append_of_pos fun c hc => ?_
  have hne : c ≠ sep := by
    rintro rfl
    exact h hc
  simpa using hne

theorem LastSegment.eq_afterLast {sep : Char} {s segment : List Char}
    (h : LastSegment sep s segment) : afterLast sep s = segment := by
  have hfree : sep ∉ segment.reverse := by simpa using h.free
  unfold afterLast
  rcases h.ends with rfl | ⟨front, rfl⟩
  · have hwhole := takeWhile_append_of_not_mem hfree []
    rw [List.append_nil] at hwhole
    rw [hwhole, List.takeWhile_nil, List.append_nil, List.reverse_reverse]
  · rw [List.reverse_append, List.reverse_cons, List.append_assoc,
      takeWhile_append_of_not_mem hfree]
    simp

theorem lastSegment_afterLast (sep : Char) (s : List Char) :
    LastSegment sep s (afterLast sep s) := by
  unfold afterLast
  have hsplit := List.takeWhile_append_dropWhile (p := (· ≠ sep)) (l := s.reverse)
  constructor
  · intro h
    have hsep := List.mem_takeWhile_imp (List.mem_reverse.mp h)
    simp at hsep
  · cases hrest : s.reverse.dropWhile (· ≠ sep) with
    | nil =>
      rw [hrest, List.append_nil] at hsplit
      exact .inl (by rw [hsplit, List.reverse_reverse])
    | cons c front =>
      have hc : c = sep := by
        have hhead := List.head?_dropWhile_not (· ≠ sep) s.reverse
        rw [hrest] at hhead
        simpa using hhead
      rw [hrest, hc] at hsplit
      refine .inr ⟨front.reverse, ?_⟩
      have hs := congrArg List.reverse hsplit
      simpa using hs.symm

/-- What follows the last separator is the last segment, and no other text is one. -/
theorem afterLast_eq_iff {sep : Char} {s segment : List Char} :
    afterLast sep s = segment ↔ LastSegment sep s segment := by
  constructor
  · rintro rfl
    exact lastSegment_afterLast sep s
  · exact LastSegment.eq_afterLast

/-- Around the last separator of a text, its parts are determined. -/
theorem append_last_separator_inj {sep : Char} {a b c d : List Char} (hb : sep ∉ b) (hd : sep ∉ d) :
    a ++ sep :: b = c ++ sep :: d ↔ a = c ∧ b = d := by
  constructor
  · intro h
    have hlast : LastSegment sep (a ++ sep :: b) b := ⟨hb, .inr ⟨a, rfl⟩⟩
    have hlast' : LastSegment sep (a ++ sep :: b) d := ⟨hd, .inr ⟨c, h⟩⟩
    obtain rfl : b = d := hlast.eq_afterLast.symm.trans hlast'.eq_afterLast
    exact ⟨List.append_cancel_right h, rfl⟩
  · rintro ⟨rfl, rfl⟩
    rfl

/-! ## Patterns -/

/-- The second text is what remains of the first without the occurrences of the pattern, which are
found from left to right and do not overlap. -/
inductive Erased (pattern : List Char) : List Char → List Char → Prop
  | nil : Erased pattern [] []
  | found {s t : List Char} (h : Erased pattern s t) : Erased pattern (pattern ++ s) t
  | kept {c : Char} {s t : List Char} (hc : ¬ pattern <+: c :: s) (h : Erased pattern s t) :
    Erased pattern (c :: s) (c :: t)

variable {pattern : List Char}

theorem eraseFrom_eq_drop (pattern : List Char) (skip : Nat) (s : List Char) :
    eraseFrom pattern skip s = erase pattern (s.drop skip) := by
  induction s generalizing skip with
  | nil =>
    rw [List.drop_nil]
    cases skip <;> rfl
  | cons c s ih =>
    cases skip with
    | zero => rfl
    | succ skip => rw [eraseFrom, ih, List.drop_succ_cons]

theorem erase_nil (pattern : List Char) : erase pattern [] = [] := rfl

theorem erase_append (h : pattern ≠ []) (s : List Char) :
    erase pattern (pattern ++ s) = erase pattern s := by
  obtain ⟨c, rest, hpattern⟩ := List.exists_cons_of_ne_nil h
  have hstarts : pattern ≠ [] ∧ pattern.isPrefixOf (c :: (rest ++ s)) = true := by
    refine ⟨h, List.isPrefixOf_iff_prefix.mpr ⟨s, ?_⟩⟩
    rw [hpattern, List.cons_append]
  have hskip : pattern.length - 1 = rest.length := by simp [hpattern]
  calc erase pattern (pattern ++ s) = eraseFrom pattern 0 (c :: (rest ++ s)) := by
        rw [erase]
        congr 1
        rw [hpattern, List.cons_append]
    _ = eraseFrom pattern rest.length (rest ++ s) := by rw [eraseFrom, if_pos hstarts, hskip]
    _ = erase pattern s := by rw [eraseFrom_eq_drop, List.drop_left]

theorem erase_cons {c : Char} {s : List Char} (h : ¬ pattern <+: c :: s) :
    erase pattern (c :: s) = c :: erase pattern s := by
  have hnot : ¬ (pattern ≠ [] ∧ pattern.isPrefixOf (c :: s) = true) := by
    rintro ⟨-, hstarts⟩
    exact h (List.isPrefixOf_iff_prefix.mp hstarts)
  show eraseFrom pattern 0 (c :: s) = c :: eraseFrom pattern 0 s
  rw [eraseFrom, if_neg hnot]

theorem Erased.eq_erase (h : pattern ≠ []) {s t : List Char} (ht : Erased pattern s t) :
    erase pattern s = t := by
  induction ht with
  | nil => exact erase_nil pattern
  | found _ ih => rw [erase_append h, ih]
  | kept hc _ ih => rw [erase_cons hc, ih]

theorem erased_erase (h : pattern ≠ []) (s : List Char) : Erased pattern s (erase pattern s) := by
  -- an occurrence is passed over as a whole, so what remains to be looked at is any shorter text
  induction hn : s.length using Nat.strong_induction_on generalizing s with
  | _ n ih =>
    cases s with
    | nil => exact .nil
    | cons c s =>
      by_cases hstarts : pattern <+: c :: s
      · obtain ⟨rest, hrest⟩ := hstarts
        have hlength : rest.length < n := by
          have hpos := List.length_pos_iff.mpr h
          have htotal := congrArg List.length hrest
          rw [List.length_append] at htotal
          omega
        rw [← hrest, erase_append h]
        exact .found (ih rest.length hlength rest rfl)
      · rw [erase_cons hstarts]
        refine .kept hstarts (ih s.length ?_ s rfl)
        rw [← hn, List.length_cons]
        omega

/-- Nothing is taken out of a text in which the pattern does not occur. -/
theorem erased_of_not_infix {s : List Char} (h : ¬ pattern <:+: s) : Erased pattern s s := by
  induction s with
  | nil => exact .nil
  | cons c s ih =>
    rw [List.infix_cons_iff, not_or] at h
    exact .kept h.1 (ih h.2)

/-- Erasing gives what remains without the occurrences, and no other text. -/
theorem erase_eq_iff (h : pattern ≠ []) {s t : List Char} :
    erase pattern s = t ↔ Erased pattern s t := by
  constructor
  · rintro rfl
    exact erased_erase h s
  · exact Erased.eq_erase h

/-- Erasing one character keeps the others. -/
theorem erase_singleton (c : Char) (s : List Char) : erase [c] s = s.filter (· ≠ c) := by
  induction s with
  | nil => rfl
  | cons d s ih =>
    by_cases h : d = c
    · subst h
      have happend := erase_append (List.cons_ne_nil d []) s
      rw [List.singleton_append] at happend
      rw [happend, ih]
      simp
    · have hstarts : ¬ [c] <+: d :: s := by
        rintro ⟨rest, hrest⟩
        exact h (List.cons.inj hrest).1.symm
      rw [erase_cons hstarts, ih]
      simp [h]

end SubscriberContract.Text
