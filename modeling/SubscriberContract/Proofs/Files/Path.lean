import Mathlib.Data.List.Basic
import SubscriberContract.Files.Path
import SubscriberContract.Proofs.Text.Cut

/-!
# Joined paths

A name joined to a path is its last component, whatever the path looks like: `stem` gives the
components that the path contributes. So the file name of a joined path is the name, and different
ways from one directory lead to different paths. The parent of a joined path is the path in front,
unless that one has idle components at its end (`parent?_join`); so what a file below a directory
names is looked up in the directory that the file is in (`beside_foldl_join`).
-/

namespace SubscriberContract

namespace Path

/-- A name that an entry of a directory can have. -/
structure IsName (name : String) : Prop where
  ne_empty : name ≠ ""
  no_separator : '/' ∉ name.toList
  ne_here : name ≠ "."
  ne_up : name ≠ ".."

instance : DecidablePred IsName := fun name =>
  decidable_of_iff (name ≠ "" ∧ '/' ∉ name.toList ∧ name ≠ "." ∧ name ≠ "..")
    ⟨fun ⟨h₁, h₂, h₃, h₄⟩ => ⟨h₁, h₂, h₃, h₄⟩, fun ⟨h₁, h₂, h₃, h₄⟩ => ⟨h₁, h₂, h₃, h₄⟩⟩

namespace IsName

variable {name : String} (h : IsName name)

include h

theorem toList_ne_nil : name.toList ≠ [] := by
  simpa using h.ne_empty

theorem not_isAbsolute : isAbsolute name = false := by
  have hmem : name.toList.head? ≠ some '/' := fun e => h.no_separator (List.mem_of_mem_head? e)
  simpa [isAbsolute] using hmem

theorem not_isIdle : isIdle name.toList = false := by
  have hhere : name.toList ≠ ['.'] := fun e => h.ne_here (String.toList_inj.mp e)
  simp [isIdle, h.ne_empty, hhere]

end IsName

/-- The components that `dir` contributes to a path that goes on below it. -/
def stem (dir : String) : List (List Char) :=
  if dir = "" then []
  else if dir.toList.getLast? = some '/' then (Text.splitOn '/' dir.toList).dropLast
  else Text.splitOn '/' dir.toList

variable {dir name path : String}

theorem splitOn_join (h : IsName name) :
    Text.splitOn '/' (join dir name).toList = stem dir ++ [name.toList] := by
  have hname := Text.splitOn_of_not_mem h.no_separator
  unfold join stem
  rw [h.not_isAbsolute]
  by_cases hempty : dir = ""
  · subst hempty
    simpa using hname
  · have hdir : dir.isEmpty = false := by simpa using hempty
    rw [if_neg (by simp [hdir]), if_neg hempty]
    by_cases hlast : dir.toList.getLast? = some '/'
    · rw [if_pos hlast, if_pos hlast]
      obtain ⟨front, hfront⟩ := List.getLast?_eq_some_iff.mp hlast
      rw [String.toList_append, hfront, List.append_assoc, List.singleton_append,
        Text.splitOn_append, hname, Text.splitOn_append]
      simp [Text.splitOn]
    · rw [if_neg hlast, if_neg hlast, String.toList_append, String.toList_append]
      show Text.splitOn '/' (dir.toList ++ ['/'] ++ name.toList) = _
      rw [List.append_assoc, List.singleton_append, Text.splitOn_append, hname]

theorem toList_join (dir : String) (h : IsName name) :
    ∃ front, (join dir name).toList = front ++ name.toList := by
  unfold join
  simp only [h.not_isAbsolute, Bool.false_eq_true, or_false]
  split_ifs
  · exact ⟨[], rfl⟩
  · exact ⟨dir.toList, String.toList_append⟩
  · exact ⟨(dir ++ "/").toList, String.toList_append⟩

theorem stem_join (h : IsName name) : stem (join dir name) = stem dir ++ [name.toList] := by
  obtain ⟨front, hfront⟩ := toList_join dir h
  have hempty : join dir name ≠ "" := by
    intro e
    rw [e] at hfront
    exact h.toList_ne_nil (List.append_eq_nil_iff.mp hfront.symm).2
  have hlast : (join dir name).toList.getLast? ≠ some '/' := by
    rw [hfront, List.getLast?_append_of_ne_nil _ h.toList_ne_nil]
    exact fun e => h.no_separator (List.mem_of_mem_getLast? e)
  rw [stem, if_neg hempty, if_neg hlast, splitOn_join h]

theorem stem_foldl_join {way : List String} (h : ∀ name ∈ way, IsName name) :
    stem (way.foldl join dir) = stem dir ++ way.map String.toList := by
  induction way generalizing dir with
  | nil => simp
  | cons name way ih =>
    rw [List.foldl_cons, ih fun n hn => h n (List.mem_cons_of_mem _ hn),
      stem_join (h name List.mem_cons_self), List.map_cons, List.append_assoc,
      List.singleton_append]

theorem trim_append {c : List Char} (h : isIdle c = false) (cs : List (List Char)) :
    trim (cs ++ [c]) = cs ++ [c] := by
  cases cs with
  | nil => rfl
  | cons first rest => simp [trim, h]

theorem components_join (h : IsName name) :
    components (join dir name) = stem dir ++ [name.toList] := by
  rw [components, splitOn_join h, trim_append h.not_isIdle]

/-- The components of a path below `dir` are those of `dir` and the names on the way. -/
theorem components_foldl_join {way : List String} (hway : way ≠ [])
    (h : ∀ name ∈ way, IsName name) :
    components (way.foldl join dir) = stem dir ++ way.map String.toList := by
  obtain ⟨front, last, rfl⟩ := (List.eq_nil_or_concat' way).resolve_left hway
  rw [List.foldl_concat, components_join (h last (by simp)),
    stem_foldl_join fun n hn => h n (List.mem_append_left _ hn), List.map_append, List.append_assoc]
  rfl

theorem fileName?_join (h : IsName name) : fileName? (join dir name) = some name := by
  have hup : name.toList ≠ ['.', '.'] := fun e => h.ne_up (String.toList_inj.mp e)
  have hhere : name.toList ≠ ['.'] := fun e => h.ne_here (String.toList_inj.mp e)
  rw [fileName?, components_join h, List.getLast?_concat]
  split
  · next e => cases e
  · next e => exact absurd (Option.some.inj e) h.toList_ne_nil
  · next e => exact absurd (Option.some.inj e) hhere
  · next e => exact absurd (Option.some.inj e) hup
  · next e => rw [← Option.some.inj e, String.ofList_toList]

theorem isUnitFile_join (h : IsName name) : isUnitFile (join dir name) = isUnitName name := by
  rw [isUnitFile, fileName?_join h, Option.any_some]

/-- Different ways from one directory lead to different paths. -/
theorem foldl_join_injective {way way' : List String} (h : ∀ name ∈ way, IsName name)
    (h' : ∀ name ∈ way', IsName name) (e : way.foldl join dir = way'.foldl join dir) :
    way = way' := by
  have hstem := congrArg stem e
  rw [stem_foldl_join h, stem_foldl_join h'] at hstem
  exact (List.map_inj_right fun _ _ => String.toList_inj.mp).mp (List.append_cancel_left hstem)

/-- A unit file's name is the suffix with something in front. -/
theorem isUnitName_iff {name : String} :
    isUnitName name = true ↔ ∃ front, front ≠ "" ∧ name = front ++ ".websub.json" := by
  have hsize (front : String) : (front ++ unitSuffix).utf8ByteSize > unitSuffix.utf8ByteSize ↔
      front ≠ "" := by
    rw [String.utf8ByteSize_append, gt_iff_lt, Nat.lt_add_left_iff_pos, Nat.pos_iff_ne_zero, ne_eq,
      String.utf8ByteSize_eq_zero_iff]
  unfold isUnitName
  rw [decide_eq_true_iff, List.isSuffixOf_iff_suffix]
  constructor
  · rintro ⟨hlong, front, hfront⟩
    have hname : name = String.ofList front ++ unitSuffix := by
      rw [← String.toList_inj, String.toList_append, String.toList_ofList, hfront]
    rw [hname, hsize] at hlong
    exact ⟨_, hlong, hname⟩
  · rintro ⟨front, hfront, rfl⟩
    exact ⟨(hsize front).mpr hfront, front.toList, String.toList_append.symm⟩

/-! ## Paths beside a file -/

/-- The path ends in a component that leads somewhere, unless it has only one or is the root. -/
def IsTidy (path : String) : Prop :=
  path = "/" ∨ components path = Text.splitOn '/' path.toList

instance : DecidablePred IsTidy := fun path => by unfold IsTidy; infer_instance

theorem isTidy_join (h : IsName name) : IsTidy (join dir name) :=
  .inr (by rw [components_join h, splitOn_join h])

theorem intercalate_splitOn (path : String) :
    "/".intercalate ((Text.splitOn '/' path.toList).map String.ofList) = path := by
  rw [← String.toList_inj, String.toList_intercalate, List.map_map]
  simpa using Text.intercalate_splitOn '/' path.toList

theorem length_trim_le (cs : List (List Char)) : (trim cs).length ≤ cs.length := by
  cases cs with
  | nil => exact Nat.le_refl _
  | cons first rest =>
    have hdrop := (List.dropWhile_sublist isIdle (l := rest.reverse)).length_le
    simpa [trim] using hdrop

theorem trim_append_idle {c : List Char} (h : isIdle c = true) {cs : List (List Char)}
    (hne : cs ≠ []) : trim (cs ++ [c]) = trim cs := by
  obtain ⟨first, rest, rfl⟩ := List.exists_cons_of_ne_nil hne
  simp [trim, h]

/-- What ends in a separator has an idle component behind it. -/
theorem getLast?_ne_separator (h : components path = Text.splitOn '/' path.toList) :
    path.toList.getLast? ≠ some '/' := by
  intro hlast
  obtain ⟨front, hfront⟩ := List.getLast?_eq_some_iff.mp hlast
  have hsplit : Text.splitOn '/' path.toList = Text.splitOn '/' front ++ [[]] := by
    rw [hfront, Text.splitOn_append]
    rfl
  rw [components, hsplit, trim_append_idle rfl (Text.splitOn_ne_nil '/' front)] at h
  have hle := length_trim_le (Text.splitOn '/' front)
  rw [h, List.length_append] at hle
  exact absurd hle (Nat.not_succ_le_self _)

theorem trim_stem (hdir : components dir = Text.splitOn '/' dir.toList) (hne : dir ≠ "") :
    trim (stem dir) = Text.splitOn '/' dir.toList := by
  rw [stem, if_neg hne, if_neg (getLast?_ne_separator hdir)]
  exact hdir

/-- An entry of a directory has the directory as its parent. -/
theorem parent?_join (h : IsName name) (hdir : IsTidy dir) :
    parent? (join dir name) = some dir := by
  rw [parent?, components_join h]
  split
  · next e => simp at e
  · next e =>
    have hname : name.toList = [] := by simpa using congrArg List.getLast? e
    exact absurd hname h.toList_ne_nil
  · rw [List.dropLast_concat]
    rcases hdir with rfl | hdir
    · have hstem : stem "/" = [[]] := by decide
      rw [hstem]
      rfl
    · by_cases hempty : dir = ""
      · subst hempty
        rfl
      · rw [trim_stem hdir hempty]
        split
        · next e =>
          have hdir := intercalate_splitOn dir
          rw [e] at hdir
          exact absurd hdir.symm hempty
        · rw [intercalate_splitOn]

theorem beside_of_isAbsolute {x : String} (h : isAbsolute x = true) : beside path x = x := by
  cases hparent : parent? path <;> simp [beside, join, hparent, h]

/-- The root and the empty path have no parent, so nothing is put in front. -/
theorem beside_of_components_eq {x : String} (h : components path = [[]]) : beside path x = x := by
  simp [beside, parent?, h]

/-- A file in a directory names others as they are named from the directory. -/
theorem beside_join (h : IsName name) (hdir : IsTidy dir) (x : String) :
    beside (join dir name) x = join dir x := by
  rw [beside, parent?_join h hdir]
  rfl

/-- So does a file below a directory, from the directory that it is in. -/
theorem beside_foldl_join {way : List String} (hdir : IsTidy dir)
    (hway : ∀ name ∈ way, IsName name) (h : IsName name) (x : String) :
    beside ((way ++ [name]).foldl join dir) x = join (way.foldl join dir) x := by
  rw [List.foldl_concat]
  refine beside_join h ?_ x
  rcases List.eq_nil_or_concat' way with rfl | ⟨front, last, rfl⟩
  · exact hdir
  · rw [List.foldl_concat]
    exact isTidy_join (hway last (by simp))

end Path
end SubscriberContract
