import SubscriberContract.Proofs.Files.Listing
import SubscriberContract.UnitFiles

/-!
# Which unit files are found, and in which order

Collecting gathers ways in the order of the listings and sorts them afterwards. Here it is compared
with a walk that goes through the entries of every directory in the byte order of their names
(`walk` on `Listing.arranged`): the walk meets the ways in their order, so sorting gives the walk,
whatever order the listings had. What the walk meets is said without it by `Listing.HasFile` and
`IsUnitWay`, and what stops collecting by `Blocked`.
-/

namespace SubscriberContract

namespace Path

/-- The order of paths by their components, each compared by its bytes. -/
def le (p q : String) : Bool :=
  Text.listLE Text.bytesLE ((components p).map Text.bytes) ((components q).map Text.bytes)

end Path

theorem Text.bytes_injective : Function.Injective Text.bytes := by
  intro s t h
  have hrefl : bytesLE (bytes t) (bytes t) = true := by
    simpa [bytesLE] using listLE_total byteLE_total (bytes t) (bytes t)
  refine listLE_antisymm charLE_antisymm ?_ ?_ <;> rw [listLE_charLE_eq_bytesLE, h, hrefl]

theorem Way.le_eq_bytesLE (way way' : Way) :
    Way.le way way' = Text.listLE Text.bytesLE (way.map fun name => Text.bytes name.toList)
      (way'.map fun name => Text.bytes name.toList) := by
  unfold Way.le
  induction way generalizing way' with
  | nil => simp [Text.listLE]
  | cons name way ih =>
    cases way' with
    | nil => simp [Text.listLE]
    | cons name' way' =>
      rw [List.map_cons, List.map_cons]
      by_cases h : name = name'
      · simpa [Text.listLE, h] using ih way'
      · have hbytes : Text.bytes name.toList ≠ Text.bytes name'.toList :=
          fun e => h (String.toList_inj.mp (Text.bytes_injective e))
        rw [Text.listLE_cons_of_ne h, Text.listLE_cons_of_ne hbytes, Text.textLE_eq_bytesLE]

theorem Way.le_total (way way' : Way) : Way.le way way' || Way.le way' way :=
  Text.listLE_total Text.textLE_total way way'

theorem Way.le_antisymm (way way' : Way) (h : Way.le way way') (h' : Way.le way' way) :
    way = way' :=
  Text.listLE_antisymm Text.textLE_antisymm h h'

theorem Way.le_trans (way way' way'' : Way) (h : Way.le way way') (h' : Way.le way' way'') :
    Way.le way way'' :=
  Text.listLE_trans Text.textLE_trans Text.textLE_antisymm h h'

theorem Way.le_cons_self (name : String) (way way' : Way) :
    Way.le (name :: way) (name :: way') = Way.le way way' :=
  Text.listLE_append_left [name] way way'

/-- Paths below one directory are ordered as the ways to them. -/
theorem Path.le_foldl_join {dir : String} {way way' : Way} (hne : way ≠ []) (hne' : way' ≠ [])
    (h : ∀ name ∈ way, IsName name) (h' : ∀ name ∈ way', IsName name) :
    Path.le (way.foldl join dir) (way'.foldl join dir) = Way.le way way' := by
  rw [Path.le, components_foldl_join hne h, components_foldl_join hne' h', List.map_append,
    List.map_append, Text.listLE_append_left, Way.le_eq_bytesLE, List.map_map, List.map_map]
  rfl

namespace UnitFiles

variable (exclude : List String)

/-- What the names on a way to a unit file are: no directory on it is excluded, and the file has
the suffix with something in front. -/
structure IsUnitWay (way : Way) : Prop where
  entered : ∀ name ∈ way.dropLast, name ∉ exclude
  named : ∃ front, front ≠ "" ∧ way.getLast? = some (front ++ ".websub.json")

/-- A directory that is visited holds something other than a link whose name is no text, or cannot
be listed. -/
inductive Blocked : Listing → Prop
  | unnamable {listing : Listing} {bytes : List UInt8} {item : Item}
      (h : (.raw bytes, item) ∈ listing) (hitem : item ≠ .link) : Blocked listing
  | unreadable {listing : Listing} {name : String} {fault : ReadFault}
      (h : (.text name, .locked fault) ∈ listing) (hname : name ∉ exclude) : Blocked listing
  | inside {listing entries : Listing} {name : String}
      (h : (.text name, .directory entries) ∈ listing) (hname : name ∉ exclude)
      (hinner : Blocked entries) : Blocked listing

mutual

/-- The ways that a depth-first walk meets in an entry. -/
def walkInto : EntryName → Item → List Way
  | .text name, .file => if Path.isUnitName name then [[name]] else []
  | .text name, .directory entries =>
    if exclude.contains name then [] else (walk entries).map (name :: ·)
  | _, _ => []

/-- The ways to unit files, as a depth-first walk meets them that goes through the entries of every
directory in the order in which they are listed. -/
def walk : Listing → List Way
  | [] => []
  | (name, item) :: entries => walkInto name item ++ walk entries

end

variable {exclude}

theorem walk_eq_flatMap (l : Listing) :
    walk exclude l = l.flatMap fun e => walkInto exclude e.1 e.2 := by
  induction l with
  | nil => simp [walk]
  | cons e l ih => rw [walk, ih, List.flatMap_cons]

/-! ## What the walk meets -/

theorem isUnitWay_singleton {name : String} :
    IsUnitWay exclude [name] ↔ Path.isUnitName name = true := by
  rw [Path.isUnitName_iff]
  constructor
  · rintro ⟨-, front, hfront, hname⟩
    exact ⟨front, hfront, Option.some.inj hname⟩
  · rintro ⟨front, hfront, rfl⟩
    exact ⟨nofun, front, hfront, rfl⟩

theorem isUnitWay_cons {name : String} {way : Way} (hway : way ≠ []) :
    IsUnitWay exclude (name :: way) ↔ name ∉ exclude ∧ IsUnitWay exclude way := by
  have hdrop := List.dropLast_cons_of_ne_nil (x := name) hway
  have hlast : (name :: way).getLast? = way.getLast? := List.getLast?_cons_of_ne_nil hway
  constructor
  · rintro ⟨entered, named⟩
    rw [hdrop, List.forall_mem_cons] at entered
    rw [hlast] at named
    exact ⟨entered.1, entered.2, named⟩
  · rintro ⟨hname, entered, named⟩
    refine ⟨?_, ?_⟩
    · rw [hdrop]
      exact List.forall_mem_cons.mpr ⟨hname, entered⟩
    · rwa [hlast]

/-- Every way into an entry starts with the name of the entry. -/
theorem exists_cons_of_mem_walkInto {name : EntryName} {item : Item} {way : Way}
    (h : way ∈ walkInto exclude name item) : ∃ n rest, name = .text n ∧ way = n :: rest := by
  unfold walkInto at h
  split at h
  · next n =>
    split at h
    · exact ⟨n, [], rfl, List.mem_singleton.mp h⟩
    · cases h
  · next n entries =>
    split at h
    · cases h
    · obtain ⟨rest, -, rfl⟩ := List.mem_map.mp h
      exact ⟨n, rest, rfl, rfl⟩
  · cases h

theorem mem_walk_of_hasFile {l : Listing} {way : Way} (h : l.HasFile way)
    (hway : IsUnitWay exclude way) : way ∈ walk exclude l := by
  induction h with
  | here h =>
    rw [walk_eq_flatMap]
    refine List.mem_flatMap_of_mem h ?_
    rw [walkInto, if_pos (isUnitWay_singleton.mp hway)]
    exact List.mem_singleton.mpr rfl
  | within h hrest ih =>
    obtain ⟨hname, hway⟩ := (isUnitWay_cons hrest.ne_nil).mp hway
    rw [walk_eq_flatMap]
    refine List.mem_flatMap_of_mem h ?_
    rw [walkInto, if_neg (by simpa using hname)]
    exact List.mem_map_of_mem (ih hway)

theorem hasFile_of_mem_walk {l : Listing} {way : Way} (h : way ∈ walk exclude l) :
    l.HasFile way ∧ IsUnitWay exclude way := by
  induction l using Listing.induction generalizing way with
  | step l inner =>
    rw [walk_eq_flatMap] at h
    obtain ⟨⟨name, item⟩, he, hmem⟩ := List.mem_flatMap.mp h
    dsimp only at hmem
    unfold walkInto at hmem
    split at hmem
    · next name =>
      split at hmem
      · next hname =>
        obtain rfl := List.mem_singleton.mp hmem
        exact ⟨.here he, isUnitWay_singleton.mpr hname⟩
      · cases hmem
    · next name entries =>
      split at hmem
      · cases hmem
      · next hname =>
        obtain ⟨rest, hrest, rfl⟩ := List.mem_map.mp hmem
        obtain ⟨hfile, hway⟩ := inner _ entries he hrest
        exact ⟨.within he hfile, (isUnitWay_cons hfile.ne_nil).mpr ⟨by simpa using hname, hway⟩⟩
    · cases hmem

theorem mem_walk_iff {l : Listing} {way : Way} :
    way ∈ walk exclude l ↔ l.HasFile way ∧ IsUnitWay exclude way :=
  ⟨hasFile_of_mem_walk, fun h => mem_walk_of_hasFile h.1 h.2⟩

/-! ## Each way once, and in order -/

/-- Entries of different names have no way in common. -/
theorem disjoint_walkInto {e e' : EntryName × Item} (h : e.1 ≠ e'.1) :
    List.Disjoint (walkInto exclude e.1 e.2) (walkInto exclude e'.1 e'.2) := by
  intro way hway hway'
  obtain ⟨n, rest, hn, rfl⟩ := exists_cons_of_mem_walkInto hway
  obtain ⟨n', rest', hn', he⟩ := exists_cons_of_mem_walkInto hway'
  obtain rfl := (List.cons.inj he).1
  exact h (hn.trans hn'.symm)

theorem nodup_walk {l : Listing} (hl : l.Proper) : (walk exclude l).Nodup := by
  induction l using Listing.induction with
  | step l inner =>
    rw [walk_eq_flatMap, List.nodup_flatMap]
    refine ⟨?_, ?_⟩
    · rintro ⟨name, item⟩ he
      dsimp only
      unfold walkInto
      split
      · split <;> simp
      · next name entries =>
        split
        · exact .nil
        · exact (inner _ entries he (hl.inner he)).map (List.cons_injective)
      · exact .nil
    · cases hl with
      | intro _ distinct => exact (List.pairwise_map.mp distinct).imp disjoint_walkInto

/-- Ways into different entries are ordered as the entries. -/
theorem le_of_mem_walkInto {e e' : EntryName × Item} (hle : Listing.EntryLE e e')
    (hne : e.1 ≠ e'.1) {way way' : Way} (h : way ∈ walkInto exclude e.1 e.2)
    (h' : way' ∈ walkInto exclude e'.1 e'.2) : Way.le way way' = true := by
  obtain ⟨n, rest, hn, rfl⟩ := exists_cons_of_mem_walkInto h
  obtain ⟨n', rest', hn', rfl⟩ := exists_cons_of_mem_walkInto h'
  have hnames : n ≠ n' := fun e => hne (by rw [hn, hn', e])
  rw [Listing.EntryLE, hn, hn', EntryName.le_text] at hle
  rwa [Way.le, Text.listLE_cons_of_ne hnames]

/-- The walk meets the ways in their order if it goes through every directory in order. -/
theorem pairwise_walk {l : Listing} (hl : l.Proper) (ho : l.InOrder) :
    (walk exclude l).Pairwise (Way.le · ·) := by
  induction l using Listing.induction with
  | step l inner =>
    cases ho with
    | intro sorted ordered =>
      rw [walk_eq_flatMap, List.pairwise_flatMap]
      refine ⟨?_, ?_⟩
      · rintro ⟨name, item⟩ he
        dsimp only
        unfold walkInto
        split
        · split <;> simp
        · next name entries =>
          split
          · exact .nil
          · rw [List.pairwise_map]
            refine (inner _ entries he (hl.inner he) (ordered _ entries he)).imp fun h => ?_
            rwa [Way.le_cons_self]
        · exact .nil
      · cases hl with
        | intro _ distinct =>
          refine (sorted.and (List.pairwise_map.mp distinct)).imp fun h way hway way' hway' => ?_
          exact le_of_mem_walkInto h.1 h.2 hway hway'

theorem perm_walk {l l' : Listing} (h : l.Rearranged l') :
    (walk exclude l).Perm (walk exclude l') := by
  induction h with
  | nil => exact .refl _
  | keep e _ ih => exact ih.append_left _
  | enter name _ _ ih ih' =>
    refine List.Perm.append ?_ ih'
    cases name with
    | raw => exact .refl _
    | text name =>
      rw [walkInto, walkInto]
      split
      · exact .refl _
      · exact ih.map _
  | swap e e' l =>
    rw [walk_eq_flatMap, walk_eq_flatMap]
    exact (List.Perm.swap e' e l).flatMap_right _
  | trans _ _ ih ih' => exact ih.trans ih'

theorem pairwise_mergeSort (ways : List Way) : (ways.mergeSort Way.le).Pairwise (Way.le · ·) :=
  List.pairwise_mergeSort Way.le_trans Way.le_total ways

/-- Sorting what any listing of the tree gives is the walk in order. -/
theorem mergeSort_walk {l l' : Listing} (hl : l.Proper) (h : l.Rearranged l') :
    (walk exclude l').mergeSort Way.le = walk exclude l.arranged := by
  have harranged := l.rearranged_arranged
  refine List.Perm.eq_of_pairwise (fun _ _ _ _ => Way.le_antisymm _ _) (pairwise_mergeSort _)
    (pairwise_walk (harranged.proper hl) l.inOrder_arranged) ?_
  calc (walk exclude l').mergeSort Way.le
    _ |>.Perm (walk exclude l') := List.mergeSort_perm ..
    _ |>.Perm (walk exclude l) := perm_walk h.symm
    _ |>.Perm (walk exclude l.arranged) := perm_walk harranged

/-! ## What stops collecting -/

theorem Blocked.mono {l l' : Listing} (hsub : l ⊆ l') (h : Blocked exclude l) :
    Blocked exclude l' := by
  cases h with
  | unnamable h hitem => exact .unnamable (hsub h) hitem
  | unreadable h hname => exact .unreadable (hsub h) hname
  | inside h hname hinner => exact .inside (hsub h) hname hinner

theorem blocked_cons {e : EntryName × Item} {l : Listing} (h : Blocked exclude (e :: l)) :
    Blocked exclude [e] ∨ Blocked exclude l := by
  cases h with
  | unnamable h hitem =>
    rcases List.mem_cons.mp h with rfl | h
    · exact .inl (.unnamable List.mem_cons_self hitem)
    · exact .inr (.unnamable h hitem)
  | unreadable h hname =>
    rcases List.mem_cons.mp h with rfl | h
    · exact .inl (.unreadable List.mem_cons_self hname)
    · exact .inr (.unreadable h hname)
  | inside h hname hinner =>
    rcases List.mem_cons.mp h with rfl | h
    · exact .inl (.inside List.mem_cons_self hname hinner)
    · exact .inr (.inside h hname hinner)

/-- Whether collecting is stopped does not depend on the order of listings. -/
theorem Blocked.of_rearranged {l l' : Listing} (h : l.Rearranged l') (hb : Blocked exclude l) :
    Blocked exclude l' := by
  induction h with
  | nil => exact hb
  | keep e _ ih =>
    rcases blocked_cons hb with hb | hb
    · exact hb.mono (by simp)
    · exact (ih hb).mono (by simp)
  | @enter name entries entries' _ _ _ _ ih ih' =>
    rcases blocked_cons hb with hb | hb
    · have hhead : Blocked exclude [(name, .directory entries')] := by
        cases hb with
        | unnamable h hitem =>
          cases List.mem_singleton.mp h
          exact .unnamable List.mem_cons_self nofun
        | unreadable h => cases List.mem_singleton.mp h
        | inside h hname hinner =>
          cases List.mem_singleton.mp h
          exact .inside List.mem_cons_self hname (ih hinner)
      exact hhead.mono (by simp)
    · exact (ih' hb).mono (by simp)
  | swap e e' l => exact hb.mono (List.Perm.swap e' e l).subset
  | trans _ _ ih ih' => exact ih' (ih hb)

variable {path : String}

theorem waysBelow_ok {l : Listing}
    (h : ∀ e ∈ l, waysInto exclude path e.1 e.2 = .ok (walkInto exclude e.1 e.2)) :
    waysBelow exclude path l = .ok (walk exclude l) := by
  induction l with
  | nil => rfl
  | cons e l ih =>
    rw [waysBelow, h e List.mem_cons_self, ih fun e' he' => h e' (List.mem_cons_of_mem _ he')]
    rfl

theorem waysBelow_error {l : Listing} {e : EntryName × Item} {f : Failure} (he : e ∈ l)
    (h : waysInto exclude path e.1 e.2 = .error f) :
    ∃ f, waysBelow exclude path l = .error f := by
  induction l with
  | nil => cases he
  | cons e' l ih =>
    rw [waysBelow]
    rcases List.mem_cons.mp he with rfl | he
    · rw [h]
      exact ⟨f, rfl⟩
    · cases waysInto exclude path e'.1 e'.2 with
      | error f' => exact ⟨f', rfl⟩
      | ok first =>
        obtain ⟨f', hf'⟩ := ih he
        rw [hf']
        exact ⟨f', rfl⟩

/-- Collecting gathers what the walk meets, unless it is stopped. -/
theorem waysBelow_of_not_blocked (path : String) {l : Listing} (h : ¬ Blocked exclude l) :
    waysBelow exclude path l = .ok (walk exclude l) := by
  induction l using Listing.induction generalizing path with
  | step l inner =>
    refine waysBelow_ok ?_
    rintro ⟨name, item⟩ he
    cases item with
    | link => cases name <;> rfl
    | file | special =>
      cases name with
      | raw => exact absurd (.unnamable he nofun) h
      | text => rfl
    | locked fault =>
      cases name with
      | raw => exact absurd (.unnamable he nofun) h
      | text name =>
        by_cases hname : name ∈ exclude
        · simp [waysInto, walkInto, hname]
        · exact absurd (.unreadable he hname) h
    | directory entries =>
      cases name with
      | raw => exact absurd (.unnamable he nofun) h
      | text name =>
        by_cases hname : name ∈ exclude
        · simp [waysInto, walkInto, hname]
        · have hinner := inner _ entries he (Path.join path name)
            fun hb => h (.inside he hname hb)
          simp [waysInto, walkInto, hname, hinner, Except.map]

theorem waysBelow_of_blocked (path : String) {l : Listing} (h : Blocked exclude l) :
    ∃ f, waysBelow exclude path l = .error f := by
  induction h generalizing path with
  | @unnamable _ bytes item h hitem =>
    have hinto : waysInto exclude path (.raw bytes) item =
        .error (.unnamable (Path.join path (Text.Utf8.display bytes))) := by
      cases item with
      | link => exact absurd rfl hitem
      | _ => rfl
    exact waysBelow_error h hinto
  | @unreadable _ name fault h hname =>
    have hinto : waysInto exclude path (.text name) (.locked fault) =
        .error (.unreadable (Path.join path name) fault) := by
      simp [waysInto, hname]
    exact waysBelow_error h hinto
  | @inside _ entries name h hname _ ih =>
    obtain ⟨f, hf⟩ := ih (Path.join path name)
    have hinto : waysInto exclude path (.text name) (.directory entries) = .error f := by
      simp [waysInto, hname, hf, Except.map]
    exact waysBelow_error h hinto

/-- What collecting gives for any listing of a tree that does not stop it. -/
theorem collect_of_rearranged {l l' : Listing} (hl : l.Proper) (hb : ¬ Blocked exclude l)
    (h : l.Rearranged l') :
    collect exclude path l' = .ok ((walk exclude l.arranged).map (·.foldl Path.join path)) := by
  have hb' : ¬ Blocked exclude l' := fun hb' => hb (hb'.of_rearranged h.symm)
  rw [collect, waysBelow_of_not_blocked path hb', ← mergeSort_walk hl h]
  rfl

theorem collect_of_blocked {l : Listing} (h : Blocked exclude l) :
    ∃ f, collect exclude path l = .error f := by
  obtain ⟨f, hf⟩ := waysBelow_of_blocked path h
  rw [collect, hf]
  exact ⟨f, rfl⟩

/-- What is found has a way to it in the listing. -/
theorem exists_way_of_mem_find {fs : FileSystem} {listing : Listing} {file : String}
    {files : List String} (hlist : fs.list path = .ok listing) (hl : listing.Proper)
    (hfind : find fs exclude path = .ok files) (hfile : file ∈ files) :
    ∃ way, listing.HasFile way ∧ IsUnitWay exclude way ∧ file = way.foldl Path.join path := by
  rw [find, hlist] at hfind
  have hblocked : ¬ Blocked exclude listing := by
    intro hb
    obtain ⟨f, hf⟩ : ∃ f, collect exclude path listing = .error f := collect_of_blocked hb
    cases hf.symm.trans hfind
  cases (collect_of_rearranged hl hblocked (.refl listing)).symm.trans hfind
  obtain ⟨way, hway, rfl⟩ := List.mem_map.mp hfile
  have hperm : (walk exclude listing.arranged).Perm (walk exclude listing) :=
    perm_walk listing.rearranged_arranged.symm
  obtain ⟨hreached, hunit⟩ := mem_walk_iff.mp (hperm.mem_iff.mp hway)
  exact ⟨way, hreached, hunit, rfl⟩

/-- A way to a unit file leads to a path that is taken for one. -/
theorem IsUnitWay.isUnitFile {way : Way} (h : IsUnitWay exclude way)
    (hnames : ∀ name ∈ way, Path.IsName name) :
    Path.isUnitFile (way.foldl Path.join path) = true := by
  obtain ⟨front, hfront, hlast⟩ := h.named
  obtain ⟨init, rfl⟩ := List.getLast?_eq_some_iff.mp hlast
  rw [List.foldl_append, List.foldl_cons, List.foldl_nil,
    Path.isUnitFile_join (hnames _ (by simp))]
  exact Path.isUnitName_iff.mpr ⟨front, hfront, rfl⟩

instance (l : Listing) : Decidable (Blocked exclude l) :=
  decidable_of_iff ((waysBelow exclude "" l).toOption = none) <| by
    by_cases h : Blocked exclude l
    · obtain ⟨f, hf⟩ := waysBelow_of_blocked "" h
      simp [h, hf, Except.toOption]
    · simp [h, waysBelow_of_not_blocked "" h, Except.toOption]

/-- **Each unit file is found once, in an order of its own.** A directory that cannot be listed, or
one that is visited and holds a name that is no text, gives a failure. Otherwise the paths are those
of the files with the name of a unit file that are reached through directories alone, none of them
excluded; each path once, as a walk meets them that goes through every directory in the byte order
of the names, which is the order of the paths by components; and another order of the listings
gives the same paths. -/
theorem find_eq_walk (fs : FileSystem) (exclude : List String) (path : String) :
    (∀ fault, fs.list path = .error fault → ∃ f, find fs exclude path = .error f) ∧
    ∀ listing, fs.list path = .ok listing →
      (Blocked exclude listing → ∃ f, find fs exclude path = .error f) ∧
      (¬ Blocked exclude listing → listing.Proper →
        ∃ files, find fs exclude path = .ok files ∧
          (∀ file, file ∈ files ↔ ∃ way, listing.HasFile way ∧ IsUnitWay exclude way ∧
            file = way.foldl Path.join path) ∧
          files.Nodup ∧
          files = (walk exclude listing.arranged).map (·.foldl Path.join path) ∧
          files.Pairwise (Path.le · ·) ∧
          ∀ (fs' : FileSystem) (listing' : Listing), fs'.list path = .ok listing' →
            listing.Rearranged listing' → find fs' exclude path = .ok files) := by
  have hlisted (fs : FileSystem) (listing : Listing) (h : fs.list path = .ok listing) :
      find fs exclude path = collect exclude path listing := by
    rw [find, h]
  refine ⟨fun fault h => ⟨.unreadable path fault, by rw [find, h]⟩, fun listing h => ⟨?_, ?_⟩⟩
  · intro hb
    rw [hlisted fs listing h]
    exact collect_of_blocked hb
  · intro hb hl
    have hperm : (walk exclude listing.arranged).Perm (walk exclude listing) :=
      perm_walk listing.rearranged_arranged.symm
    have hways : ∀ way ∈ walk exclude listing.arranged,
        way ≠ [] ∧ ∀ name ∈ way, Path.IsName name := by
      intro way hway
      have hfile := (mem_walk_iff.mp (hperm.mem_iff.mp hway)).1
      exact ⟨hfile.ne_nil, hfile.isName hl⟩
    refine ⟨_, ?_, ?_, ?_, rfl, ?_, ?_⟩
    · rw [hlisted fs listing h]
      exact collect_of_rearranged hl hb (.refl listing)
    · intro file
      simp only [List.mem_map, hperm.mem_iff, mem_walk_iff, and_assoc, eq_comm]
    · refine List.Nodup.map_on ?_ (hperm.nodup_iff.mpr (nodup_walk hl))
      intro way hway way' hway' e
      exact Path.foldl_join_injective (hways way hway).2 (hways way' hway').2 e
    · rw [List.pairwise_map]
      have hsorted : (walk exclude listing.arranged).Pairwise (Way.le · ·) :=
        pairwise_walk (listing.rearranged_arranged.proper hl) listing.inOrder_arranged
      refine hsorted.imp_of_mem fun {way way'} hway hway' hle => ?_
      obtain ⟨hne, hnames⟩ := hways way hway
      obtain ⟨hne', hnames'⟩ := hways way' hway'
      rwa [Path.le_foldl_join hne hne' hnames hnames']
    · intro fs' listing' h' hr
      rw [hlisted fs' listing' h']
      exact collect_of_rearranged hl hb hr

/-- Names that differ in what follows `a`, a link, an excluded directory and a bare suffix. -/
theorem find_eq_walk_names :
    let unit : EntryName × Item := (.text "x.websub.json", .file)
    let listing : Listing :=
      [(.text "a.b", .directory [unit]), (.text "a-b", .directory [unit]),
        (.text "out", .directory [unit]), (.text "y.websub.json", .link), (.raw [0xFF], .link),
        (.text "a", .directory [(.text ".websub.json", .file), unit]),
        (.text "a b", .directory [unit])]
    let fs : FileSystem :=
      ⟨fun _ => some .directory, fun _ => .error .isDirectory, fun _ => .ok listing⟩
    fs.list "p" = .ok listing ∧ ¬ Blocked ["out"] listing ∧ listing.Proper ∧
      find fs ["out"] "p" = .ok ["p/a/x.websub.json", "p/a b/x.websub.json",
        "p/a-b/x.websub.json", "p/a.b/x.websub.json"] := by
  intro unit listing fs
  have hb : ¬ Blocked ["out"] listing := by decide
  have hl : listing.Proper := by decide
  obtain ⟨files, hfiles, -, -, hwalk, -⟩ :=
    ((find_eq_walk fs ["out"] "p").2 listing rfl).2 hb hl
  refine ⟨rfl, hb, hl, ?_⟩
  rw [hfiles, hwalk]
  decide

end UnitFiles
end SubscriberContract
