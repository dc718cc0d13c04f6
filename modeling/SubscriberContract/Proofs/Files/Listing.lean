import Mathlib.Data.List.Sort
import SubscriberContract.Files.System
import SubscriberContract.Proofs.Files.Path
import SubscriberContract.Proofs.Text.ByteOrder

/-!
# Listings

What lies below a directory is a tree, and a listing gives it with the entries of each directory in
whatever order the file system has. `Listing.Rearranged` relates the listings of one tree, and
`Listing.arranged` is the listing with the entries of every directory in the byte order of their
names.
-/

namespace SubscriberContract

namespace EntryName

def bytes : EntryName → List UInt8
  | .text name => Text.bytes name.toList
  | .raw bytes => bytes

/-- The byte order of names. -/
def le (n n' : EntryName) : Bool := Text.bytesLE n.bytes n'.bytes

/-- A name that an entry of a directory can have. -/
def IsProper : EntryName → Prop
  | .text name => Path.IsName name
  | .raw _ => True

instance : DecidablePred IsProper
  | .text _ => by unfold IsProper; infer_instance
  | .raw _ => by unfold IsProper; infer_instance

theorem le_text (s t : String) : le (.text s) (.text t) = Text.textLE s t :=
  (Text.textLE_eq_bytesLE s t).symm

theorem le_total (n n' : EntryName) : le n n' || le n' n :=
  Text.listLE_total Text.byteLE_total _ _

theorem le_trans (n n' n'' : EntryName) (h : le n n') (h' : le n' n'') : le n n'' :=
  Text.listLE_trans Text.byteLE_trans Text.byteLE_antisymm h h'

end EntryName

namespace Listing

/-- A property of listings follows where it may be used for the directories that are listed. -/
theorem induction {P : Listing → Prop}
    (step : ∀ listing : Listing,
      (∀ name entries, (name, Item.directory entries) ∈ listing → P entries) → P listing)
    (listing : Listing) : P listing := by
  refine step listing (@Item.rec_1 (fun item => ∀ entries, item = .directory entries → P entries)
    (fun l => ∀ name entries, (name, Item.directory entries) ∈ l → P entries)
    (fun e => ∀ entries, e.2 = .directory entries → P entries)
    nofun ?directory nofun nofun nofun nofun ?entries (fun _ _ h => h) listing)
  case directory =>
    rintro entries ih _ ⟨⟩
    exact step entries ih
  case entries =>
    intro e l he hl name entries h
    rcases List.mem_cons.mp h with rfl | h
    · exact he entries rfl
    · exact hl name entries h

/-- The names of a file system: proper ones, and each at most once in a directory. -/
inductive Proper : Listing → Prop
  | intro {listing : Listing} (names : ∀ e ∈ listing, e.1.IsProper)
      (distinct : (listing.map (·.1)).Nodup)
      (inner : ∀ name entries, (name, Item.directory entries) ∈ listing → Proper entries) :
    Proper listing

/-- The way leads through directories, no links among them, to a file. -/
inductive HasFile : Listing → List String → Prop
  | here {listing : Listing} {name : String} (h : (.text name, .file) ∈ listing) :
    HasFile listing [name]
  | within {listing entries : Listing} {name : String} {way : List String}
      (h : (.text name, .directory entries) ∈ listing) (hway : HasFile entries way) :
    HasFile listing (name :: way)

theorem Proper.isName {listing : Listing} (h : listing.Proper) {name : String} {item : Item}
    (he : (.text name, item) ∈ listing) : Path.IsName name := by
  cases h with
  | intro names => exact names _ he

theorem Proper.inner {listing entries : Listing} (h : listing.Proper) {name : EntryName}
    (he : (name, .directory entries) ∈ listing) : Proper entries := by
  cases h with
  | intro _ _ inner => exact inner name entries he

theorem HasFile.ne_nil {listing : Listing} {way : List String} (h : listing.HasFile way) :
    way ≠ [] := by
  cases h <;> simp

theorem HasFile.isName {listing : Listing} {way : List String} (h : listing.HasFile way)
    (hl : listing.Proper) : ∀ name ∈ way, Path.IsName name := by
  induction h with
  | here he => exact List.forall_mem_singleton.mpr (hl.isName he)
  | within he _ ih => exact List.forall_mem_cons.mpr ⟨hl.isName he, ih (hl.inner he)⟩

/-! ## The order of a listing -/

/-- Two listings of one tree: the entries of each directory may come in another order. -/
inductive Rearranged : Listing → Listing → Prop
  | nil : Rearranged [] []
  | keep (e : EntryName × Item) {l l' : Listing} (h : Rearranged l l') :
    Rearranged (e :: l) (e :: l')
  | enter (name : EntryName) {entries entries' l l' : Listing} (inner : Rearranged entries entries')
      (h : Rearranged l l') :
    Rearranged ((name, .directory entries) :: l) ((name, .directory entries') :: l')
  | swap (e e' : EntryName × Item) (l : Listing) : Rearranged (e :: e' :: l) (e' :: e :: l)
  | trans {l l' l'' : Listing} (h : Rearranged l l') (h' : Rearranged l' l'') : Rearranged l l''

namespace Rearranged

variable {l l' : Listing}

theorem refl (l : Listing) : Rearranged l l := by
  induction l with
  | nil => exact .nil
  | cons e _ ih => exact .keep e ih

theorem of_perm (h : l.Perm l') : Rearranged l l' := by
  induction h with
  | nil => exact .nil
  | cons e _ ih => exact .keep e ih
  | swap e e' l => exact .swap e' e l
  | trans _ _ ih ih' => exact .trans ih ih'

theorem symm (h : Rearranged l l') : Rearranged l' l := by
  induction h with
  | nil => exact .nil
  | keep e _ ih => exact .keep e ih
  | enter name _ _ ih ih' => exact .enter name ih ih'
  | swap e e' l => exact .swap e' e l
  | trans _ _ ih ih' => exact .trans ih' ih

theorem names (h : Rearranged l l') : (l.map (·.1)).Perm (l'.map (·.1)) := by
  induction h with
  | nil => exact .nil
  | keep e _ ih => exact ih.cons e.1
  | enter name _ _ _ ih => exact ih.cons name
  | swap e e' l => exact .swap e'.1 e.1 _
  | trans _ _ ih ih' => exact ih.trans ih'

end Rearranged

theorem proper_cons_iff {e : EntryName × Item} {l : Listing} :
    Proper (e :: l) ↔ e.1.IsProper ∧ e.1 ∉ l.map (·.1) ∧
      (∀ entries, e.2 = .directory entries → Proper entries) ∧ Proper l := by
  constructor
  · intro h
    cases h with
    | intro names distinct inner =>
      rw [List.map_cons, List.nodup_cons] at distinct
      refine ⟨names e List.mem_cons_self, distinct.1, fun entries he => ?_, ?_⟩
      · exact inner e.1 entries (by rw [← he]; exact List.mem_cons_self)
      · exact .intro (fun e' h => names e' (List.mem_cons_of_mem _ h)) distinct.2
          fun name entries h => inner name entries (List.mem_cons_of_mem _ h)
  · rintro ⟨hname, hnew, hinner, names, distinct, inner⟩
    refine .intro (List.forall_mem_cons.mpr ⟨hname, names⟩) (List.nodup_cons.mpr ⟨hnew, distinct⟩)
      fun name entries h => ?_
    rcases List.mem_cons.mp h with rfl | h
    · exact hinner entries rfl
    · exact inner name entries h

mutual

/-- Whether what an item holds is proper. -/
def decidableInner : (item : Item) →
    Decidable (∀ entries, item = .directory entries → Proper entries)
  | .directory entries =>
    match decidableProper entries with
    | isTrue h => isTrue (by rintro _ ⟨⟩; exact h)
    | isFalse h => isFalse fun h' => h (h' entries rfl)
  | .file | .locked _ | .link | .special => isTrue nofun

def decidableProper : (listing : Listing) → Decidable (Proper listing)
  | [] => isTrue (.intro nofun .nil nofun)
  | (_, item) :: entries =>
    have := decidableInner item
    have := decidableProper entries
    decidable_of_iff _ proper_cons_iff.symm

end

instance : DecidablePred Proper := decidableProper

theorem Rearranged.proper {l l' : Listing} (h : Rearranged l l') (hl : l.Proper) : l'.Proper := by
  induction h with
  | nil => exact hl
  | keep e h ih =>
    obtain ⟨hname, hnew, hinner, hl⟩ := proper_cons_iff.mp hl
    exact proper_cons_iff.mpr ⟨hname, fun hm => hnew (h.names.mem_iff.mpr hm), hinner, ih hl⟩
  | enter name _ h ih ih' =>
    obtain ⟨hname, hnew, hinner, hl⟩ := proper_cons_iff.mp hl
    refine proper_cons_iff.mpr ⟨hname, fun hm => hnew (h.names.mem_iff.mpr hm), ?_, ih' hl⟩
    rintro entries ⟨⟩
    exact ih (hinner _ rfl)
  | swap e e' l =>
    obtain ⟨hname, hnew, hinner, hl⟩ := proper_cons_iff.mp hl
    obtain ⟨hname', hnew', hinner', hl⟩ := proper_cons_iff.mp hl
    rw [List.map_cons, List.mem_cons, not_or] at hnew
    refine proper_cons_iff.mpr ⟨hname', ?_, hinner', proper_cons_iff.mpr ⟨hname, hnew.2, hinner, hl⟩⟩
    rw [List.map_cons, List.mem_cons, not_or]
    exact ⟨Ne.symm hnew.1, hnew'⟩
  | trans _ _ ih ih' => exact ih' (ih hl)

/-! ## Listings in order -/

/-- The order of entries: by the bytes of their names. -/
def EntryLE (e e' : EntryName × Item) : Prop := EntryName.le e.1 e'.1 = true

instance : DecidableRel EntryLE := fun _ _ => by unfold EntryLE; infer_instance

instance : Std.Total EntryLE where
  total e e' := by simpa [EntryLE] using EntryName.le_total e.1 e'.1

instance : IsTrans (EntryName × Item) EntryLE where
  trans _ _ _ := EntryName.le_trans _ _ _

/-- The entries of every directory are in order. -/
inductive InOrder : Listing → Prop
  | intro {listing : Listing} (sorted : listing.Pairwise EntryLE)
      (inner : ∀ name entries, (name, Item.directory entries) ∈ listing → InOrder entries) :
    InOrder listing

end Listing

mutual

/-- The item with the entries of every directory in order. -/
def Item.arranged : Item → Item
  | .directory entries => .directory (Listing.arranged entries)
  | item => item

/-- The listing with the entries of every directory in order. -/
def Listing.arranged : Listing → Listing
  | [] => []
  | (name, item) :: entries =>
    List.orderedInsert Listing.EntryLE (name, item.arranged) (Listing.arranged entries)

end

namespace Listing

theorem arranged_perm (l : Listing) :
    l.arranged.Perm (l.map fun e => (e.1, e.2.arranged)) := by
  induction l with
  | nil => exact .nil
  | cons e l ih => exact (List.perm_orderedInsert ..).trans (ih.cons _)

theorem rearranged_arranged (l : Listing) : Rearranged l l.arranged := by
  induction l using Listing.induction with
  | step l inner =>
    refine .trans ?_ (.of_perm l.arranged_perm.symm)
    induction l with
    | nil => exact .nil
    | cons e l ih =>
      have htail := ih fun name entries h => inner name entries (List.mem_cons_of_mem _ h)
      obtain ⟨name, item⟩ := e
      cases item with
      | directory entries => exact .enter name (inner name entries List.mem_cons_self) htail
      | _ => exact .keep _ htail

theorem pairwise_arranged (l : Listing) : l.arranged.Pairwise EntryLE := by
  induction l with
  | nil => exact .nil
  | cons e l ih => exact ih.orderedInsert _ _

theorem inOrder_arranged (l : Listing) : l.arranged.InOrder := by
  induction l using Listing.induction with
  | step l inner =>
    refine .intro l.pairwise_arranged fun name entries h => ?_
    obtain ⟨⟨name', item⟩, he, hitem⟩ := List.mem_map.mp (l.arranged_perm.mem_iff.mp h)
    cases item with
    | directory entries' =>
      cases hitem
      exact inner _ entries' he
    | _ => cases hitem

end Listing
end SubscriberContract
