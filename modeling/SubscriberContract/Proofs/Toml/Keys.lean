import Mathlib.Data.List.Nodup
import SubscriberContract.Proofs.Outcome
import SubscriberContract.Toml.Document

/-!
# Keys of a document

No table of a document gives a key twice: a key is entered where the table has none of its name, or
takes the place of the one that it has. The invariant `Entries.Distinct` goes down to all tables
that a later line can still extend. Every change at the end of a path keeps it
(`distinct_changeAt`), so every line does, and the document has it in the end (`distinct_parse`).
-/

namespace SubscriberContract.Toml

/-- The table that a value is, or the tables of an array of them. -/
def Value.held : Value → List Entries
  | .inlineTable _ entries | .table _ entries => [entries]
  | .tables items => items.map (·.value)
  | _ => []

namespace Entries

def names (entries : Entries) : List String := entries.map (·.1.name)

/-- No key is given twice, neither here nor in a table further inside. Arrays of values are not
looked into: nothing is entered there later. -/
inductive Distinct : Entries → Prop
  | intro {entries : Entries} (names : entries.names.Nodup)
    (held : ∀ e ∈ entries, ∀ t ∈ e.2.value.held, Distinct t) : Distinct entries

end Entries

/-- All tables of the value give their keys once. -/
def Value.Distinct (v : Value) : Prop := ∀ t ∈ v.held, t.Distinct

namespace Value

theorem distinct_inlineTable {dotted : Bool} {entries : Entries} :
    (inlineTable dotted entries).Distinct ↔ entries.Distinct := List.forall_mem_singleton

theorem distinct_table {form : TableForm} {entries : Entries} :
    (table form entries).Distinct ↔ entries.Distinct := List.forall_mem_singleton

theorem distinct_tables {items : List (Located Entries)} :
    (tables items).Distinct ↔ ∀ t ∈ items, Entries.Distinct t.value := List.forall_mem_map

end Value

namespace Entries

variable {entries : Entries} {name : String}

theorem valueOf?_eq_none_iff : entries.valueOf? name = none ↔ name ∉ entries.names := by
  simp [valueOf?, names]

theorem exists_of_valueOf? {v : LocatedValue} (h : entries.valueOf? name = some v) :
    ∃ key, key.name = name ∧ (key, v) ∈ entries := by
  obtain ⟨⟨key, v'⟩, hfind, rfl⟩ := Option.map_eq_some_iff.mp h
  exact ⟨key, by simpa using List.find?_some hfind, List.mem_of_find?_eq_some hfind⟩

theorem mem_put {key : Key} {v : LocatedValue} {e : Key × LocatedValue}
    (he : e ∈ entries.put key v) : e.2 = v ∨ e ∈ entries := by
  induction entries with
  | nil =>
    rw [put, List.mem_singleton] at he
    exact .inl (he ▸ rfl)
  | cons first rest ih =>
    rw [put] at he
    split at he
    · rcases List.mem_cons.mp he with rfl | he
      · exact .inl rfl
      · exact .inr (List.mem_cons_of_mem _ he)
    · rcases List.mem_cons.mp he with rfl | he
      · exact .inr List.mem_cons_self
      · exact (ih he).imp_right (List.mem_cons_of_mem _)

theorem names_cons (e : Key × LocatedValue) (entries : Entries) :
    Entries.names (e :: entries) = e.1.name :: entries.names := rfl

/-- A key that is given already keeps its place. -/
theorem names_put {key : Key} {v : LocatedValue} (h : key.name ∈ entries.names) :
    (entries.put key v).names = entries.names := by
  induction entries with
  | nil => cases h
  | cons first rest ih =>
    rw [put]
    split
    · next hsame => rw [names_cons, names_cons]
    · next hne =>
      rw [names_cons] at h
      have hrest := (List.mem_cons.mp h).resolve_left (Ne.symm hne)
      rw [names_cons, names_cons, ih hrest]

/-- A new key comes last. -/
theorem put_of_new {key : Key} {v : LocatedValue} (h : key.name ∉ entries.names) :
    entries.put key v = entries ++ [(key, v)] := by
  induction entries with
  | nil => rfl
  | cons first rest ih =>
    rw [names_cons, List.mem_cons, not_or] at h
    rw [put, if_neg (Ne.symm h.1), ih h.2, List.cons_append]

namespace Distinct

theorem nil : Distinct [] := ⟨List.nodup_nil, nofun⟩

theorem names (h : entries.Distinct) : entries.names.Nodup := by
  cases h
  assumption

theorem held (h : entries.Distinct) {e : Key × LocatedValue} (he : e ∈ entries) :
    e.2.value.Distinct := by
  cases h with
  | intro _ held => exact held e he

theorem valueOf? (h : entries.Distinct) {v : LocatedValue} (hv : entries.valueOf? name = some v) :
    v.value.Distinct := by
  obtain ⟨key, -, hmem⟩ := exists_of_valueOf? hv
  exact h.held hmem

theorem put (h : entries.Distinct) {key : Key} {v : LocatedValue} (hv : v.value.Distinct) :
    (entries.put key v).Distinct := by
  constructor
  · by_cases hgiven : key.name ∈ entries.names
    · rw [names_put hgiven]
      exact h.names
    · have hnames : Entries.names (entries ++ [(key, v)]) = entries.names ++ [key.name] :=
        List.map_append
      rw [put_of_new hgiven, hnames, List.nodup_append_comm, List.singleton_append,
        List.nodup_cons]
      exact ⟨hgiven, h.names⟩
  · intro e he
    rcases mem_put he with hnew | hold
    · rw [hnew]
      exact hv
    · exact h.held hold

theorem snoc (h : entries.Distinct) {key : Key} {v : LocatedValue}
    (hnone : entries.valueOf? key.name = none) (hv : v.value.Distinct) :
    Distinct (entries ++ [(key, v)]) := by
  rw [← put_of_new (valueOf?_eq_none_iff.mp hnone)]
  exact h.put hv

theorem filter (h : entries.Distinct) (p : Key × LocatedValue → Bool) :
    Distinct (entries.filter p) := by
  constructor
  · exact h.names.sublist (List.filter_sublist.map _)
  · intro e he
    exact h.held (List.mem_filter.mp he).1

end Distinct
end Entries

/-! ## Changes at the end of a path -/

/-- The change keeps tables whose keys are given once. -/
def KeepsDistinct (change : TableForm → Entries → Except Reason Entries) : Prop :=
  ∀ ⦃form entries entries'⦄, Entries.Distinct entries → change form entries = .ok entries' →
    Entries.Distinct entries'

theorem distinct_changeAt {dotted : Bool} {change : TableForm → Entries → Except Reason Entries}
    (hchange : KeepsDistinct change) (passed : List String) (path : List Key) :
    KeepsDistinct (changeAt dotted change passed path) := by
  induction path generalizing passed with
  | nil => exact hchange
  | cons key path ih =>
    intro form entries entries' h hc
    have hnext := ih (key.name :: passed)
    rw [changeAt] at hc
    dsimp only at hc
    split at hc
    · next hnone =>
      obtain ⟨inner, hinner, hc⟩ := bind_eq_ok_iff.mp hc
      cases hc
      exact h.snoc hnone (Value.distinct_table.mpr (hnext .nil hinner))
    · next extent form' inner hsome =>
      have hinside : Entries.Distinct inner := Value.distinct_table.mp (h.valueOf? hsome)
      split at hc
      · cases hc
      · obtain ⟨inner', hinner, hc⟩ := bind_eq_ok_iff.mp hc
        cases hc
        exact h.put (Value.distinct_table.mpr (hnext hinside hinner))
    · next extent items hsome =>
      have hitems : ∀ t ∈ items, Entries.Distinct t.value :=
        Value.distinct_tables.mp (h.valueOf? hsome)
      split at hc
      · cases hc
        exact h
      · next last before hreverse =>
        have hmem : ∀ t ∈ last :: before, Entries.Distinct t.value := by
          rw [← hreverse]
          exact fun t ht => hitems t (List.mem_reverse.mp ht)
        obtain ⟨last', hlast, hc⟩ := bind_eq_ok_iff.mp hc
        cases hc
        refine h.put (Value.distinct_tables.mpr fun t ht => ?_)
        rcases List.mem_append.mp ht with ht | ht
        · exact hmem t (List.mem_cons_of_mem _ (List.mem_reverse.mp ht))
        · rw [List.mem_singleton.mp ht]
          exact hnext (hmem last List.mem_cons_self) hlast
    · cases hc

theorem distinct_enterInline {last : Key} {v : LocatedValue} (hv : v.value.Distinct)
    (passed : List String) (path : List Key) {entries entries' : Entries} (h : entries.Distinct)
    (he : enterInline last v passed path entries = .ok entries') : entries'.Distinct := by
  induction path generalizing passed entries entries' with
  | nil =>
    rw [enterInline] at he
    split at he
    · next hnone =>
      cases he
      exact h.snoc hnone hv
    · cases he
  | cons key path ih =>
    rw [enterInline] at he
    split at he
    · next hnone =>
      obtain ⟨inner, hinner, he⟩ := bind_eq_ok_iff.mp he
      cases he
      exact h.snoc hnone (Value.distinct_inlineTable.mpr (ih _ .nil hinner))
    · next extent inner hsome =>
      have hinside : Entries.Distinct inner := Value.distinct_inlineTable.mp (h.valueOf? hsome)
      obtain ⟨inner', hinner, he⟩ := bind_eq_ok_iff.mp he
      cases he
      exact h.put (Value.distinct_inlineTable.mpr (ih _ hinside hinner))
    · cases he
    · cases he

/-! ## Drafts -/

/-- The keys are given once in what is closed and under the last header. -/
structure Draft.Distinct (d : Draft) : Prop where
  root : d.root.Distinct
  current : d.current.Distinct

namespace Draft

variable {d d' : Draft}

theorem distinct_start : start.Distinct := ⟨.nil, .nil⟩

theorem Distinct.enter (h : d.Distinct) {path : List Key} {last : Key} {item : LocatedValue}
    (hitem : item.value.Distinct) (he : d.enter path last item = .ok d') : d'.Distinct := by
  unfold Draft.enter at he
  dsimp only at he
  obtain ⟨current, hcurrent, he⟩ := bind_eq_ok_iff.mp he
  cases he
  refine ⟨h.root, distinct_changeAt ?_ [] path h.current hcurrent⟩
  intro form entries entries' hentries hadd
  dsimp only at hadd
  split at hadd
  · cases hadd
  · split at hadd
    · next hnone =>
      cases hadd
      exact hentries.snoc hnone hitem
    · cases hadd

theorem distinct_addTable {items : List (Located Entries)} {t : Located Entries}
    (hitems : ∀ t ∈ items, Entries.Distinct t.value) (ht : Entries.Distinct t.value) :
    (addTable items t).value.Distinct := by
  refine Value.distinct_tables.mpr fun t' ht' => ?_
  rcases List.mem_append.mp ht' with ht' | ht'
  · exact hitems t' ht'
  · rw [List.mem_singleton.mp ht']
    exact ht

theorem Distinct.close (h : d.Distinct) {entries : Entries} (hc : d.close = .ok entries) :
    entries.Distinct := by
  unfold Draft.close at hc
  split at hc
  · cases hc
    exact h.current
  · next key hlast =>
    refine distinct_changeAt ?_ [] d.path.dropLast h.root hc
    intro form entries entries' hentries hput
    dsimp only at hput
    split at hput
    · split at hput
      · next extent items hsome =>
        cases hput
        have hitems := Value.distinct_tables.mp (hentries.valueOf? hsome)
        exact hentries.put (distinct_addTable hitems h.current)
      · cases hput
        exact hentries.put (distinct_addTable nofun h.current)
    · cases hput
      exact hentries.put (Value.distinct_table.mpr h.current)

theorem distinct_find {last : Key} {path : List Key} {entries held : Entries}
    (h : entries.Distinct) (hf : beginTable.find last entries path = .ok held) :
    held.Distinct := by
  induction path generalizing entries with
  | nil =>
    rw [beginTable.find] at hf
    split at hf
    · next extent inner hsome =>
      cases hf
      exact Value.distinct_table.mp (h.valueOf? hsome)
    · cases hf
      exact .nil
  | cons key path ih =>
    rw [beginTable.find] at hf
    split at hf
    · next extent form inner hsome => exact ih (Value.distinct_table.mp (h.valueOf? hsome)) hf
    · next extent items hsome =>
      have hitems := Value.distinct_tables.mp (h.valueOf? hsome)
      refine ih ?_ hf
      cases hlast : items.getLast? with
      | none => exact .nil
      | some t => exact hitems t (List.mem_of_getLast? hlast)
    · cases hf
      exact .nil

theorem Distinct.beginTable (h : d.Distinct) {header : Extent} {path : List Key} {last : Key}
    (hb : d.beginTable header path last = .ok d') : d'.Distinct := by
  unfold Draft.beginTable at hb
  obtain ⟨root, hclose, hb⟩ := bind_eq_ok_iff.mp hb
  obtain ⟨held, hfind, hb⟩ := bind_eq_ok_iff.mp hb
  obtain ⟨root', htake, hb⟩ := bind_eq_ok_iff.mp hb
  cases hb
  have hroot := h.close hclose
  refine ⟨distinct_changeAt ?_ [] path hroot htake, distinct_find hroot hfind⟩
  intro form entries entries' hentries htake
  dsimp only at htake
  split at htake
  · cases htake
    exact hentries
  · cases htake
    exact hentries.filter _
  · cases htake

theorem Distinct.beginItem (h : d.Distinct) {header : Extent} {path : List Key} {last : Key}
    (hb : d.beginItem header path last = .ok d') : d'.Distinct := by
  unfold Draft.beginItem at hb
  obtain ⟨root, hclose, hb⟩ := bind_eq_ok_iff.mp hb
  obtain ⟨root', hopened, hb⟩ := bind_eq_ok_iff.mp hb
  cases hb
  refine ⟨distinct_changeAt ?_ [] path (h.close hclose) hopened, .nil⟩
  intro form entries entries' hentries hopened
  dsimp only at hopened
  split at hopened
  · next hnone =>
    cases hopened
    exact hentries.snoc hnone (Value.distinct_tables.mpr nofun)
  · cases hopened
    exact hentries
  · cases hopened

end Draft
end SubscriberContract.Toml
