import SubscriberContract.Files.Tree
import SubscriberContract.Proofs.Files.Listing
import SubscriberContract.Proofs.Outcome

/-!
# Listings and paths

A file system answers for paths and gives listings; the two belong together if what a listing shows
as a file is a file by its path (`FileSystem.Coherent`). For a tree held as a value this follows from
the way paths are followed: what stands at the end of a path goes on below it (`follow_append`), and
no link stands between a directory and a name in its listing.
-/

namespace SubscriberContract

/-- Listings hold proper names, and what they show as a file is one by its path. -/
structure FileSystem.Coherent (fs : FileSystem) : Prop where
  proper : ∀ path listing, fs.list path = .ok listing → Listing.Proper listing
  kind_file : ∀ path listing way, fs.list path = .ok listing → Listing.HasFile listing way →
    fs.kind (way.foldl Path.join path) = some .file

/-- A path that is not empty has the components that it contributes to what is below it, and at most
an empty one behind them. -/
theorem Path.splitOn_eq_stem {path : String} (h : path ≠ "") :
    Text.splitOn '/' path.toList = stem path ∨
      Text.splitOn '/' path.toList = stem path ++ [[]] := by
  unfold stem
  rw [if_neg h]
  by_cases hlast : path.toList.getLast? = some '/'
  · rw [if_pos hlast]
    obtain ⟨front, hfront⟩ := List.getLast?_eq_some_iff.mp hlast
    right
    rw [hfront, Text.splitOn_append]
    simp [Text.splitOn]
  · rw [if_neg hlast]
    exact .inl rfl

namespace FileTree

/-- The names of the tree are those of a file system. -/
def Proper (t : FileTree) : Prop :=
  ∀ listing, t.item = .directory listing → Listing.Proper listing

variable {t : FileTree} {links : Nat} {place : Place} {entries : Entries}

/-! ## Places -/

theorem get?_append (place names : Place) :
    t.get? (place ++ names) = (t.get? place).bind (·.get? names) := by
  induction place generalizing t with
  | nil => rfl
  | cons name place ih =>
    cases t with
    | directory entries =>
      rw [List.cons_append, get?, get?, Option.bind_assoc]
      exact congrArg _ (funext fun u => ih)
    | _ => rfl

theorem get?_append_singleton {u : FileTree} {name : EntryName}
    (h : t.get? place = some (.directory entries)) (hu : entries.lookup name = some u) :
    t.get? (place ++ [name]) = some u := by
  rw [get?_append, h, Option.bind_some, get?, hu, Option.bind_some, get?]

theorem listing_eq_map (entries : Entries) :
    listing entries = entries.map fun e => (e.1, e.2.item) := by
  induction entries with
  | nil => rfl
  | cons e entries ih => rw [listing, ih, List.map_cons]

/-- Where names are distinct, what a listing shows under a name is what stands there. -/
theorem exists_lookup_of_mem_listing {name : EntryName} {item : Item}
    (hl : Listing.Proper (listing entries)) (h : (name, item) ∈ listing entries) :
    ∃ u, entries.lookup name = some u ∧ u.item = item := by
  rw [listing_eq_map] at h
  obtain ⟨⟨_, u⟩, hu, ⟨⟩⟩ := List.mem_map.mp h
  refine ⟨u, ?_, rfl⟩
  cases hl with
  | intro _ distinct =>
    rw [listing_eq_map, List.map_map] at distinct
    obtain ⟨before, after, rfl⟩ := List.append_of_mem hu
    refine List.lookup_eq_some_iff.mpr ⟨before, after, rfl, fun e he => bne_iff_ne.mpr ?_⟩
    rw [List.map_append, List.nodup_append] at distinct
    exact (distinct.2.2 e.1 (List.mem_map_of_mem he) _ (by simp)).symm

theorem Proper.get? {u : FileTree} (h : t.Proper) (hu : t.get? place = some u) : u.Proper := by
  induction place generalizing t with
  | nil =>
    cases hu
    exact h
  | cons name place ih =>
    cases t with
    | directory entries =>
      obtain ⟨v, hv, hget⟩ := Option.bind_eq_some_iff.mp hu
      obtain ⟨before, after, rfl, -⟩ := List.lookup_eq_some_iff.mp hv
      have hmem : (name, v.item) ∈ listing (before ++ (name, v) :: after) := by
        simp [listing_eq_map]
      refine ih (fun inner hinner => ?_) hget
      exact (h _ rfl).inner (hinner ▸ hmem)
    | _ => cases hu

/-! ## Following a path -/

/-- Where a path stops, or leads somewhere from where what is behind it is followed. -/
theorem follow_append (t : FileTree) (links : Nat) (place : Place) (cs : List EntryName) :
    (∃ f, ∀ ds, t.follow links place (cs ++ ds) = .error f) ∨
      ∃ links' place', ∀ ds, t.follow links place (cs ++ ds) = t.follow links' place' ds := by
  induction links, place, cs using FileTree.follow.induct t with
  | case1 links place => exact .inr ⟨links, place, fun _ => rfl⟩
  | case2 links place c cs entries h hidle ih =>
    have hstep (ds) : t.follow links place (c :: cs ++ ds) = t.follow links place (cs ++ ds) := by
      rw [List.cons_append, follow, h]
      exact if_pos hidle
    simpa only [hstep] using ih
  | case3 links cs entries h hidle =>
    refine .inl ⟨.notFound, fun ds => ?_⟩
    rw [List.cons_append, follow, h]
    simp [hidle]
  | case4 links place cs entries h hplace hidle ih =>
    have hstep (ds) : t.follow links place (.text ".." :: cs ++ ds) =
        t.follow links place.dropLast (cs ++ ds) := by
      rw [List.cons_append, follow, h]
      simp [hidle, hplace]
    simpa only [hstep] using ih
  | case5 links place c cs entries h hidle hup hnone =>
    refine .inl ⟨.notFound, fun ds => ?_⟩
    rw [List.cons_append, follow, h]
    simp [hidle, hup, hnone]
  | case6 place c cs entries h hidle hup target hlink =>
    refine .inl ⟨.tooManyLinks, fun ds => ?_⟩
    rw [List.cons_append, follow, h]
    simp [hidle, hup, hlink]
  | case7 links place c cs entries h hidle hup target hlink hlinks hroot =>
    refine .inl ⟨.notFound, fun ds => ?_⟩
    rw [List.cons_append, follow, h]
    simp [hidle, hup, hlink, hlinks, hroot]
  | case8 links place c cs entries h hidle hup target hlink hlinks hroot ih =>
    have hstep (ds) : t.follow links place (c :: cs ++ ds) =
        t.follow (links - 1) place (components target ++ cs ++ ds) := by
      rw [List.cons_append, follow, h]
      simp [hidle, hup, hlink, hlinks, hroot]
    simpa only [hstep] using ih
  | case9 links place c cs entries h hidle hup u hnot hu ih =>
    have hstep (ds) : t.follow links place (c :: cs ++ ds) =
        t.follow links (place ++ [c]) (cs ++ ds) := by
      rw [List.cons_append, follow, h]
      cases u with
      | link target => exact absurd rfl (hnot target)
      | _ => simp [hidle, hup, hu]
    simpa only [hstep] using ih
  | case10 links place c cs h =>
    refine .inl ⟨.notDirectory, fun ds => ?_⟩
    rw [List.cons_append, follow]
    split
    · next entries he => exact absurd he (h entries)
    · rfl

/-- Components that lead nowhere lead to where they start. -/
theorem follow_idle {rest : List EntryName} {end' : Place} (hidle : ∀ c ∈ rest, isIdle c = true)
    (h : t.follow links place rest = .ok end') : place = end' := by
  induction rest with
  | nil =>
    rw [follow] at h
    exact Except.ok.inj h
  | cons c rest ih =>
    rw [follow] at h
    split at h
    · rw [if_pos (hidle c List.mem_cons_self)] at h
      exact ih (fun c hc => hidle c (List.mem_cons_of_mem _ hc)) h
    · cases h

/-- A name that stands in a directory, and is no link there, is followed to its place. -/
theorem follow_singleton {name : String} {u : FileTree} (hname : Path.IsName name)
    (h : t.get? place = some (.directory entries)) (hu : entries.lookup (.text name) = some u)
    (hnot : ∀ target, u ≠ .link target) :
    t.follow links place [.text name] = .ok (place ++ [.text name]) := by
  have hidle : isIdle (.text name) = false := by
    simp [isIdle, hname.ne_empty, hname.ne_here]
  rw [follow, h]
  cases u with
  | link target => exact absurd rfl (hnot target)
  | _ => simp [hidle, hname.ne_up, hu, follow]

theorem head?_join {path name : String} (h : path ≠ "") (hname : Path.IsName name) :
    (Path.join path name).toList.head? = path.toList.head? := by
  have hpath : path.toList ≠ [] := by simpa using h
  unfold Path.join
  simp only [hname.not_isAbsolute, Bool.false_eq_true, or_false]
  split_ifs with hempty
  · exact absurd (by simpa using hempty) h
  · rw [String.toList_append, List.head?_append_of_ne_nil _ hpath]
  · rw [String.toList_append, String.toList_append, List.append_assoc,
      List.head?_append_of_ne_nil _ hpath]

/-- A name in a directory, no link there, has the place of the directory and the name. -/
theorem resolve_join {path name : String} {u : FileTree} (hname : Path.IsName name)
    (hpath : t.resolve path = .ok place) (h : t.get? place = some (.directory entries))
    (hu : entries.lookup (.text name) = some u) (hnot : ∀ target, u ≠ .link target) :
    t.resolve (Path.join path name) = .ok (place ++ [.text name]) := by
  unfold resolve at hpath
  split at hpath
  · cases hpath
  next hreal =>
  obtain ⟨hempty, hroot⟩ := not_or.mp hreal
  have hjoin : ¬ (Path.join path name = "" ∨ (Path.join path name).toList.head? = some '/') := by
    rw [head?_join hempty hname, not_or]
    refine ⟨fun e => ?_, hroot⟩
    have hhead := head?_join hempty hname
    rw [e] at hhead
    exact hempty (by simpa using hhead.symm)
  rw [resolve, if_neg hjoin]
  have hcomponents : components (Path.join path name) =
      (Path.stem path).map (fun c => .text (String.ofList c)) ++ [.text name] := by
    rw [components, Path.splitOn_join hname, List.map_append, List.map_singleton,
      String.ofList_toList]
  rw [hcomponents]
  have hstem : ∃ rest, components path =
      (Path.stem path).map (fun c => .text (String.ofList c)) ++ rest ∧
        ∀ c ∈ rest, isIdle c = true := by
    unfold components
    rcases Path.splitOn_eq_stem hempty with hsplit | hsplit
    · exact ⟨[], by rw [hsplit, List.append_nil], nofun⟩
    · exact ⟨[.text ""], by rw [hsplit, List.map_append]; rfl, by decide⟩
  obtain ⟨rest, hrest, hidle⟩ := hstem
  rw [hrest] at hpath
  rcases follow_append t maxLinks [] ((Path.stem path).map fun c => .text (String.ofList c)) with
    ⟨f, hf⟩ | ⟨links', place', hgo⟩
  · rw [hf] at hpath
    cases hpath
  · rw [hgo] at hpath ⊢
    obtain rfl := follow_idle hidle hpath
    exact follow_singleton hname h hu hnot

/-! ## Files by their paths -/

theorem node?_eq_ok_iff {path : String} {u : FileTree} :
    t.node? path = .ok u ↔ ∃ place, t.resolve path = .ok place ∧ t.get? place = some u := by
  unfold node?
  rw [bind_eq_ok_iff]
  refine exists_congr fun place => and_congr_right fun _ => ?_
  cases t.get? place with
  | none => simp [throw, throwThe, MonadExceptOf.throw]
  | some v => simp [pure, Except.pure]

theorem list_eq_ok_iff {path : String} {l : Listing} :
    t.list path = .ok l ↔
      ∃ entries, t.node? path = .ok (.directory entries) ∧ listing entries = l := by
  unfold list
  rw [bind_eq_ok_iff]
  constructor
  · rintro ⟨u, hu, hl⟩
    cases u with
    | directory entries => exact ⟨entries, hu, Except.ok.inj hl⟩
    | _ => cases hl
  · rintro ⟨entries, hnode, rfl⟩
    exact ⟨_, hnode, rfl⟩

/-- What stands in the current directory is found by its name. -/
theorem node?_name {name : String} {u : FileTree} (hname : Path.IsName name)
    (hu : entries.lookup (.text name) = some u) (hnot : ∀ target, u ≠ .link target) :
    (directory entries).node? name = .ok u := by
  have hroot : name.toList.head? ≠ some '/' := by
    intro h
    exact hname.no_separator (List.mem_of_mem_head? h)
  have hcomponents : components name = [.text name] := by
    rw [components, Text.splitOn_of_not_mem hname.no_separator, List.map_singleton,
      String.ofList_toList]
  have hhere : (directory entries).get? [] = some (directory entries) := rfl
  refine node?_eq_ok_iff.mpr ⟨[] ++ [.text name], ?_, get?_append_singleton hhere hu⟩
  rw [resolve, if_neg (not_or.mpr ⟨hname.ne_empty, hroot⟩), hcomponents]
  exact follow_singleton hname hhere hu hnot

/-- What stands in a directory is found by the path of the directory and its name. -/
theorem node?_join {path name : String} {u : FileTree} (hname : Path.IsName name)
    (hpath : t.node? path = .ok (.directory entries))
    (hu : entries.lookup (.text name) = some u) (hnot : ∀ target, u ≠ .link target) :
    t.node? (Path.join path name) = .ok u := by
  obtain ⟨place, hplace, hget⟩ := node?_eq_ok_iff.mp hpath
  exact node?_eq_ok_iff.mpr ⟨place ++ [.text name], resolve_join hname hplace hget hu hnot,
    get?_append_singleton hget hu⟩

theorem read_of_node? {path : String} {content : List UInt8}
    (h : t.node? path = .ok (.file content)) :
    t.read path = (Text.Utf8.decode? content).elim (.error .invalidText) .ok := by
  rw [read, h]
  cases hc : Text.Utf8.decode? content <;> simp [bind, Except.bind, hc, throw, throwThe,
    MonadExceptOf.throw, pure, Except.pure]

/-- By induction on the way: each directory on it is found by its path, and so is the file. -/
theorem kind_of_hasFile {l : Listing} {way : List String} (hfile : l.HasFile way)
    (hl : Listing.Proper l) {path : String} (hpath : t.list path = .ok l) :
    t.kind (way.foldl Path.join path) = some .file := by
  induction hfile generalizing path with
  | @here l name he =>
    obtain ⟨entries, hnode, rfl⟩ := list_eq_ok_iff.mp hpath
    obtain ⟨u, hu, hitem⟩ := exists_lookup_of_mem_listing hl he
    cases u with
    | file content =>
      show t.kind (Path.join path name) = some .file
      rw [kind, node?_join (hl.isName he) hnode hu nofun]
    | _ => cases hitem
  | @within l inner name way he _ ih =>
    obtain ⟨entries, hnode, rfl⟩ := list_eq_ok_iff.mp hpath
    obtain ⟨u, hu, hitem⟩ := exists_lookup_of_mem_listing hl he
    cases u with
    | directory entries' =>
      obtain rfl := Item.directory.inj hitem
      exact ih (hl.inner he) (list_eq_ok_iff.mpr
        ⟨entries', node?_join (hl.isName he) hnode hu nofun, rfl⟩)
    | _ => cases hitem

/-- A tree with the names of a file system answers for paths as its listings say. -/
theorem coherent (h : t.Proper) : t.fileSystem.Coherent := by
  have hproper : ∀ path l, t.list path = .ok l → Listing.Proper l := by
    intro path l hl
    obtain ⟨entries, hnode, rfl⟩ := list_eq_ok_iff.mp hl
    obtain ⟨place, -, hget⟩ := node?_eq_ok_iff.mp hnode
    exact h.get? hget _ rfl
  exact ⟨hproper, fun path l way hl hfile => kind_of_hasFile hfile (hproper path l hl) hl⟩

end FileTree
end SubscriberContract
