import SubscriberContract.Proofs.Json.Giving
import SubscriberContract.Proofs.Toml.Document
import SubscriberContract.Run

/-!
# What a configuration file says

A configuration file has a table `check`, and each key of it has a language of its own: a name of a
format, labels of codes, a truth value, names of directories. A file that says anything else is
refused, so a misspelled key or value is never taken for a default. A key that is taken changes what
it is about and nothing else (`taken_of_set`, `sayFor_of_ne`); as no key is given twice, the
settings are in the end what is said, and the default settings where nothing is
(`taken_of_setAll`).
-/

namespace SubscriberContract

/-- What a configuration file can say for a key. -/
inductive SettingValue
  | text (t : String)
  | boolean (b : Bool)
  | texts (ts : List String)
deriving DecidableEq

namespace Toml

def Value.text? : Value → Option String
  | .text t => some t
  | _ => none

def Value.setting? : Value → Option SettingValue
  | .text t => some (.text t)
  | .boolean b => some (.boolean b)
  | .array items => (items.mapM fun item : LocatedValue => item.value.text?).map .texts
  | _ => none

def Value.table? : Value → Option Entries
  | .inlineTable _ entries | .table _ entries => some entries
  | _ => none

namespace Entries

/-- What is said for each key, in order. -/
def said? (entries : Entries) : Option (List (String × SettingValue)) :=
  entries.mapM fun e => e.2.value.setting?.map (e.1.name, ·)

/-- The table `check`; without one, it is empty. -/
def check? (entries : Entries) : Option Entries :=
  match entries.valueOf? "check" with
  | none => some []
  | some v => v.value.table?

end Entries
end Toml

namespace Settings

open Toml (Value LocatedValue Entries Extent Key)

/-- What may be said for a key. -/
inductive Accepts : String → SettingValue → Prop
  | format (f : OutputFormat) : Accepts "format" (.text f.name)
  | warn (codes : List Code) : Accepts "warn" (.texts (codes.map Code.label))
  | denyWarnings (b : Bool) : Accepts "deny_warnings" (.boolean b)
  | exclude (names : List String) : Accepts "exclude" (.texts names)

theorem Accepts.mem_keys {key : String} {w : SettingValue} (h : Accepts key w) : key ∈ keys := by
  cases h <;> simp [keys]

/-- What is said for a key by settings that are written out. -/
def sayFor (s : Settings) : String → Option SettingValue
  | "format" => s.format.map fun f => .text f.name
  | "warn" => some (.texts (s.warn.map Code.label))
  | "deny_warnings" => some (.boolean s.denyWarnings)
  | "exclude" => some (.texts s.exclude)
  | _ => none

/-! ## Values -/

theorem setting?_cases {x : Value} {w : SettingValue} (h : x.setting? = some w) :
    (∃ t, x = .text t ∧ w = .text t) ∨ (∃ b, x = .boolean b ∧ w = .boolean b) ∨
      ∃ (items : List LocatedValue) (ts : List String), x = .array items ∧ w = .texts ts ∧
        List.Forall₂ (fun item t => item.value.text? = some t) items ts := by
  cases x with
  | text t => exact .inl ⟨t, rfl, (Option.some_inj.mp h).symm⟩
  | boolean b => exact .inr (.inl ⟨b, rfl, (Option.some_inj.mp h).symm⟩)
  | array items =>
    obtain ⟨ts, hts, rfl⟩ := Option.map_eq_some_iff.mp h
    exact .inr (.inr ⟨items, ts, rfl, rfl, mapM_eq_some_iff.mp hts⟩)
  | _ => cases h

theorem variant_eq_ok_iff {α : Type} {all : List α} {name : α → String}
    (hall : ∀ a, Json.Format.variant all name (name a) = .ok a) {t : String} {a : α} :
    Json.Format.variant all name t = .ok a ↔ t = name a := by
  constructor
  · exact fun h => (Json.Format.name_of_variant h).symm
  · rintro rfl
    exact hall a

section

variable {α : Type} {v : LocatedValue} {w : SettingValue}

theorem within_eq_ok_iff {place : Option Extent} {r : Except Fault α} {a : α} :
    within place r = .ok a ↔ r = .ok a := mapError_eq_ok_iff

theorem asText_eq_ok_iff (h : v.value.setting? = some w) {t : String} :
    asText v = .ok t ↔ w = .text t := by
  obtain ⟨place, x⟩ := v
  rcases setting?_cases h with ⟨t, rfl, rfl⟩ | ⟨b, rfl, rfl⟩ | ⟨items, ts, rfl, rfl, -⟩ <;>
    simp [asText, refuse]

theorem asBoolean_eq_ok_iff (h : v.value.setting? = some w) {b : Bool} :
    asBoolean v = .ok b ↔ w = .boolean b := by
  obtain ⟨place, x⟩ := v
  rcases setting?_cases h with ⟨t, rfl, rfl⟩ | ⟨b, rfl, rfl⟩ | ⟨items, ts, rfl, rfl, -⟩ <;>
    simp [asBoolean, refuse]

theorem asChoice_eq_ok_iff {all : List α} {name : α → String}
    (hall : ∀ a, Json.Format.variant all name (name a) = .ok a)
    (h : v.value.setting? = some w) {a : α} :
    asChoice all name v = .ok a ↔ w = .text (name a) := by
  obtain ⟨place, x⟩ := v
  rcases setting?_cases h with ⟨t, rfl, rfl⟩ | ⟨b, rfl, rfl⟩ | ⟨items, ts, rfl, rfl, -⟩
  · rw [SettingValue.text.injEq, ← variant_eq_ok_iff hall]
    exact mapError_eq_ok_iff
  · simp [asChoice, refuse]
  · simp [asChoice, refuse]

theorem forall₂_item_iff {item : FromToml α} {name : α → String}
    (hitem : ∀ v t a, v.value.text? = some t → (item v = .ok a ↔ t = name a))
    {items : List LocatedValue} {ts : List String}
    (h : List.Forall₂ (fun i t => i.value.text? = some t) items ts) {as : List α} :
    List.Forall₂ (fun i a => item i = .ok a) items as ↔ ts = as.map name := by
  induction h generalizing as with
  | nil => rw [List.forall₂_nil_left_iff, @eq_comm _ [] (as.map name), List.map_eq_nil_iff]
  | cons ht _ ih =>
    rw [List.forall₂_cons_left_iff, eq_comm, List.map_eq_cons_iff]
    constructor
    · rintro ⟨a, rest, ha, hrest, rfl⟩
      exact ⟨a, rest, rfl, ((hitem _ _ a ht).mp ha).symm, (ih.mp hrest).symm⟩
    · rintro ⟨a, rest, rfl, ha, hrest⟩
      exact ⟨a, rest, (hitem _ _ a ht).mpr ha.symm, ih.mpr hrest.symm, rfl⟩

theorem asList_eq_ok_iff {item : FromToml α} {name : α → String}
    (hitem : ∀ v t a, v.value.text? = some t → (item v = .ok a ↔ t = name a))
    (h : v.value.setting? = some w) {as : List α} :
    asList item v = .ok as ↔ w = .texts (as.map name) := by
  obtain ⟨place, x⟩ := v
  rcases setting?_cases h with ⟨t, rfl, rfl⟩ | ⟨b, rfl, rfl⟩ | ⟨items, ts, rfl, rfl, hts⟩
  · simp [asList, refuse]
  · simp [asList, refuse]
  · rw [SettingValue.texts.injEq, ← forall₂_item_iff hitem hts, ← mapM_eq_ok_iff]
    exact within_eq_ok_iff

end

/-! ## Keys -/

theorem variant_format (f : OutputFormat) :
    Json.Format.variant OutputFormat.all OutputFormat.name f.name = .ok f := by
  cases f <;> rfl

theorem variant_code (c : Code) : Json.Format.variant Code.all Code.label c.label = .ok c := by
  cases c <;> rfl

theorem setting?_of_text? {x : Value} {t : String} (h : x.text? = some t) :
    x.setting? = some (.text t) := by
  cases x with
  | text t' => exact congrArg (Option.map SettingValue.text) h
  | _ => cases h

theorem asCode_eq_ok_iff (v : LocatedValue) (t : String) (c : Code) (h : v.value.text? = some t) :
    asChoice Code.all Code.label v = .ok c ↔ t = c.label := by
  rw [asChoice_eq_ok_iff variant_code (setting?_of_text? h), SettingValue.text.injEq]

theorem asName_eq_ok_iff (v : LocatedValue) (t name : String) (h : v.value.text? = some t) :
    asText v = .ok name ↔ t = id name := by
  rw [asText_eq_ok_iff (setting?_of_text? h), SettingValue.text.injEq, id]

variable {v : LocatedValue} {w : SettingValue} {key : String} {s s' : Settings}

/-- What is said for other keys stays. -/
theorem sayFor_of_ne (hs : s.set key v = .ok s') {k : String} (hk : k ≠ key) :
    s'.sayFor k = s.sayFor k := by
  unfold set at hs
  split at hs
  case h_5 => cases hs
  all_goals
    obtain ⟨_, -, hs⟩ := bind_eq_ok_iff.mp hs
    cases hs
    unfold sayFor
    split <;> first | rfl | exact absurd rfl hk

theorem taken_of_set (h : v.value.setting? = some w) (hs : s.set key v = .ok s') :
    Accepts key w ∧ s'.sayFor key = some w := by
  unfold set at hs
  split at hs
  · obtain ⟨f, hf, ⟨⟩⟩ := bind_eq_ok_iff.mp hs
    rw [(asChoice_eq_ok_iff variant_format h).mp hf]
    exact ⟨.format f, rfl⟩
  · obtain ⟨codes, hcodes, ⟨⟩⟩ := bind_eq_ok_iff.mp hs
    rw [(asList_eq_ok_iff asCode_eq_ok_iff h).mp hcodes]
    exact ⟨.warn codes, rfl⟩
  · obtain ⟨b, hb, ⟨⟩⟩ := bind_eq_ok_iff.mp hs
    rw [(asBoolean_eq_ok_iff h).mp hb]
    exact ⟨.denyWarnings b, rfl⟩
  · obtain ⟨names, hnames, ⟨⟩⟩ := bind_eq_ok_iff.mp hs
    rw [(asList_eq_ok_iff asName_eq_ok_iff h).mp hnames, List.map_id]
    exact ⟨.exclude names, rfl⟩
  · cases hs

theorem exists_set (h : v.value.setting? = some w) (ha : Accepts key w) (s : Settings) :
    ∃ s', s.set key v = .ok s' := by
  cases ha with
  | format f =>
    exact ⟨_, bind_eq_ok_iff.mpr ⟨f, (asChoice_eq_ok_iff variant_format h).mpr rfl, rfl⟩⟩
  | warn codes =>
    exact ⟨_, bind_eq_ok_iff.mpr ⟨codes, (asList_eq_ok_iff asCode_eq_ok_iff h).mpr rfl, rfl⟩⟩
  | denyWarnings b =>
    exact ⟨_, bind_eq_ok_iff.mpr ⟨b, (asBoolean_eq_ok_iff h).mpr rfl, rfl⟩⟩
  | exclude names =>
    have hnames := (asList_eq_ok_iff asName_eq_ok_iff h).mpr (by rw [List.map_id])
    exact ⟨_, bind_eq_ok_iff.mpr ⟨names, hnames, rfl⟩⟩

/-! ## Tables -/

/-- Takes one entry of a table. -/
def take (s : Settings) (e : Key × LocatedValue) : Except Fault Settings :=
  within (some e.1.extent) (s.set e.1.name e.2)

/-- The entry says `p.2` for the key `p.1`. -/
structure Says (e : Key × LocatedValue) (p : String × SettingValue) : Prop where
  name : e.1.name = p.1
  value : e.2.value.setting? = some p.2

variable {entries : Entries} {said : List (String × SettingValue)}

theorem said?_eq_some_iff : entries.said? = some said ↔ List.Forall₂ Says entries said := by
  have hentry : ∀ e p, e.2.value.setting?.map (e.1.name, ·) = some p ↔ Says e p := by
    intro e p
    rw [Option.map_eq_some_iff]
    constructor
    · rintro ⟨w, hw, rfl⟩
      exact ⟨rfl, hw⟩
    · rintro ⟨hname, hw⟩
      exact ⟨p.2, hw, by rw [hname]⟩
  rw [Entries.said?, mapM_eq_some_iff]
  simp only [hentry]

theorem names_eq_map_fst (h : List.Forall₂ Says entries said) :
    entries.names = said.map Prod.fst := by
  induction h with
  | nil => rfl
  | cons hp _ ih => rw [Toml.Entries.names_cons, List.map_cons, hp.name, ih]

theorem exists_foldlM_take (hsaid : List.Forall₂ Says entries said)
    (h : ∀ p ∈ said, Accepts p.1 p.2) (s : Settings) : ∃ s', entries.foldlM take s = .ok s' := by
  induction hsaid generalizing s with
  | nil => exact ⟨s, rfl⟩
  | cons hp _ ih =>
    rw [List.forall_mem_cons, ← hp.name] at h
    obtain ⟨s₁, h₁⟩ := exists_set hp.value h.1 s
    obtain ⟨s', hs'⟩ := ih h.2 s₁
    refine ⟨s', ?_⟩
    rw [List.foldlM_cons]
    exact bind_eq_ok_iff.mpr ⟨s₁, within_eq_ok_iff.mpr h₁, hs'⟩

/-- Over the entries of a table. What is taken first stays, as no later entry has its key. -/
theorem taken_of_foldlM_take (hsaid : List.Forall₂ Says entries said)
    (hnames : entries.names.Nodup) (hs : entries.foldlM take s = .ok s') :
    (∀ p ∈ said, Accepts p.1 p.2) ∧ ∀ k, s'.sayFor k = (said.lookup k).or (s.sayFor k) := by
  induction hsaid generalizing s with
  | nil =>
    cases hs
    exact ⟨nofun, fun _ => rfl⟩
  | @cons e p entries said hp hrest ih =>
    rw [List.foldlM_cons] at hs
    obtain ⟨s₁, h₁, hs⟩ := bind_eq_ok_iff.mp hs
    replace h₁ := within_eq_ok_iff.mp h₁
    rw [Toml.Entries.names_cons, List.nodup_cons] at hnames
    obtain ⟨haccepts, hlookup⟩ := ih hnames.2 hs
    obtain ⟨haccept, hsay⟩ := taken_of_set hp.value h₁
    rw [hp.name] at haccept hsay hnames h₁
    refine ⟨List.forall_mem_cons.mpr ⟨haccept, haccepts⟩, fun k => ?_⟩
    rw [hlookup k]
    by_cases hk : k = p.1
    · have hnone : said.lookup p.1 = none := by
        rw [names_eq_map_fst hrest] at hnames
        refine List.lookup_eq_none_iff.mpr fun q hq => bne_iff_ne.mpr fun hsame => hnames.1 ?_
        rw [hsame]
        exact List.mem_map_of_mem hq
      rw [hk, hnone, hsay, List.lookup_cons_self]
      rfl
    · rw [sayFor_of_ne h₁ hk, List.lookup_cons, beq_false_of_ne hk]

theorem exists_setAll (hsaid : entries.said? = some said) (h : ∀ p ∈ said, Accepts p.1 p.2) :
    ∃ s, setAll entries = .ok s :=
  exists_foldlM_take (said?_eq_some_iff.mp hsaid) h default

theorem taken_of_setAll (hsaid : entries.said? = some said) (hnames : entries.names.Nodup)
    (hs : setAll entries = .ok s) :
    (∀ p ∈ said, Accepts p.1 p.2) ∧
      ∀ k, s.sayFor k = (said.lookup k).or ((default : Settings).sayFor k) :=
  taken_of_foldlM_take (said?_eq_some_iff.mp hsaid) hnames hs

/-! ## Documents -/

theorem ofTable_eq_ok_iff {table : Entries} (h : v.value.table? = some table) :
    ofTable v = .ok s ↔ setAll table = .ok s := by
  obtain ⟨place, x⟩ := v
  cases x with
  | inlineTable dotted inner =>
    cases h
    exact within_eq_ok_iff
  | table form inner =>
    cases h
    exact within_eq_ok_iff
  | _ => cases h

/-- Takes one entry of a document; only a table `check` can be taken. -/
def takeTable (e : Key × LocatedValue) : Except Fault Settings :=
  within (some e.1.extent) <|
    if e.1.name = "check" then ofTable e.2 else refuse none (.unknownMember e.1.name ["check"])

theorem ofDocument_eq (entries : Entries) :
    ofDocument entries = entries.foldlM (fun _ e => takeTable e) default := rfl

theorem takeTable_eq_ok_iff {e : Key × LocatedValue} :
    takeTable e = .ok s ↔ e.1.name = "check" ∧ ofTable e.2 = .ok s := by
  rw [takeTable, within_eq_ok_iff]
  split
  · next h => exact (and_iff_right h).symm
  · next h => exact iff_of_false nofun fun hs => h hs.1

theorem name_of_foldlM_takeTable (hs : entries.foldlM (fun _ e => takeTable e) s = .ok s') :
    ∀ e ∈ entries, e.1.name = "check" := by
  induction entries generalizing s with
  | nil => exact nofun
  | cons e entries ih =>
    rw [List.foldlM_cons] at hs
    obtain ⟨s₁, h₁, hs⟩ := bind_eq_ok_iff.mp hs
    exact List.forall_mem_cons.mpr ⟨(takeTable_eq_ok_iff.mp h₁).1, ih hs⟩

theorem eq_nil_or_singleton {name : String} (hnames : entries.names.Nodup)
    (h : ∀ e ∈ entries, e.1.name = name) : entries = [] ∨ ∃ e, entries = [e] := by
  rcases entries with _ | ⟨e, _ | ⟨e', rest⟩⟩
  · exact .inl rfl
  · exact .inr ⟨e, rfl⟩
  · have he := h e List.mem_cons_self
    have he' := h e' (List.mem_cons_of_mem _ List.mem_cons_self)
    rw [Toml.Entries.names_cons, Toml.Entries.names_cons, he, he', List.nodup_cons] at hnames
    exact absurd List.mem_cons_self hnames.1

theorem ofDocument_eq_ok_iff {table : Entries} (hnames : entries.names.Nodup)
    (htable : entries.check? = some table) :
    ofDocument entries = .ok s ↔ (∀ e ∈ entries, e.1.name = "check") ∧ setAll table = .ok s := by
  by_cases hall : ∀ e ∈ entries, e.1.name = "check"
  · rw [and_iff_right hall]
    rcases eq_nil_or_singleton hnames hall with rfl | ⟨e, rfl⟩
    · cases htable
      rfl
    · have hname := hall e List.mem_cons_self
      have hvalue : Entries.check? [e] = e.2.value.table? := by
        simp [Entries.check?, Entries.valueOf?, hname]
      rw [← ofTable_eq_ok_iff (hvalue ▸ htable), ofDocument_eq, List.foldlM_cons, bind_eq_ok_iff]
      constructor
      · rintro ⟨s₁, h₁, ⟨⟩⟩
        exact (takeTable_eq_ok_iff.mp h₁).2
      · exact fun h => ⟨s, takeTable_eq_ok_iff.mpr ⟨hname, h⟩, rfl⟩
  · exact iff_of_false (fun hs => hall (name_of_foldlM_takeTable hs)) fun hs => hall hs.1

theorem distinct_of_check? {table : Entries} (h : entries.Distinct)
    (htable : entries.check? = some table) : table.Distinct := by
  unfold Entries.check? at htable
  split at htable
  · cases htable
    exact .nil
  · next v hv =>
    have hheld := h.valueOf? hv
    cases hx : v.value with
    | inlineTable dotted inner =>
      rw [hx] at htable hheld
      cases htable
      exact Toml.Value.distinct_inlineTable.mp hheld
    | table form inner =>
      rw [hx] at htable hheld
      cases htable
      exact Toml.Value.distinct_table.mp hheld
    | _ =>
      rw [hx] at htable
      cases htable

/-- The settings are what is said, and the default settings where nothing is. -/
structure Hold (s : Settings) (said : List (String × SettingValue)) : Prop where
  format : said.lookup "format" = s.format.map fun f => .text f.name
  warn : (said.lookup "warn").getD (.texts []) = .texts (s.warn.map Code.label)
  denyWarnings : (said.lookup "deny_warnings").getD (.boolean false) = .boolean s.denyWarnings
  exclude : (said.lookup "exclude").getD (.texts []) = .texts s.exclude

theorem hold_of_sayFor (h : ∀ k, s.sayFor k = (said.lookup k).or ((default : Settings).sayFor k)) :
    s.Hold said where
  format := ((h "format").trans Option.or_none).symm
  warn := (Option.some_inj.mp ((h "warn").trans Option.or_some)).symm
  denyWarnings := (Option.some_inj.mp ((h "deny_warnings").trans Option.or_some)).symm
  exclude := (Option.some_inj.mp ((h "exclude").trans Option.or_some)).symm

/-- **A configuration file is taken as it says or refused.** Take a file that holds a document, with
texts, truth values and lists of texts in its table `check`. It says nothing twice; it is taken
exactly if there is no other key beside the table and what is said for each key may be said for it.
The settings are then what is said, and the default ones where nothing is; otherwise there is a
failure that names the file. -/
theorem load_of_document {fs : FileSystem} {path text : String} {table : Entries}
    (hread : fs.read path = .ok text) (hparse : Toml.parse text = .ok entries)
    (htable : entries.check? = some table) (hsaid : table.said? = some said) :
    (said.map Prod.fst).Nodup ∧
    ((∃ s, load fs path = .ok s) ↔
      (∀ e ∈ entries, e.1.name = "check") ∧ ∀ p ∈ said, Accepts p.1 p.2) ∧
    (∀ s, load fs path = .ok s → s.Hold said) ∧
    ∀ f, load fs path = .error f → ∃ cause, f = .badSettings path text cause ∧
      f.message = s!"Failed to parse configuration '{path}'" := by
  have hdistinct := Toml.distinct_parse hparse
  have hload : load fs path = (ofDocument entries).mapError (.badSettings path text) := by
    simp only [load, parse, hread, hparse]
    rfl
  have hok : ∀ s, load fs path = .ok s ↔
      (∀ e ∈ entries, e.1.name = "check") ∧ setAll table = .ok s := by
    intro s
    rw [hload, mapError_eq_ok_iff, ofDocument_eq_ok_iff hdistinct.names htable]
  have hnames := (distinct_of_check? hdistinct htable).names
  refine ⟨?_, ⟨?_, ?_⟩, ?_, ?_⟩
  · rw [← names_eq_map_fst (said?_eq_some_iff.mp hsaid)]
    exact hnames
  · rintro ⟨s, hs⟩
    obtain ⟨hchecks, hset⟩ := (hok s).mp hs
    exact ⟨hchecks, (taken_of_setAll hsaid hnames hset).1⟩
  · rintro ⟨hchecks, haccepts⟩
    obtain ⟨s, hset⟩ := exists_setAll hsaid haccepts
    exact ⟨s, (hok s).mpr ⟨hchecks, hset⟩⟩
  · intro s hs
    exact hold_of_sayFor (taken_of_setAll hsaid hnames ((hok s).mp hs).2).2
  · intro f hf
    rw [hload] at hf
    cases hdoc : ofDocument entries with
    | ok s =>
      rw [hdoc] at hf
      cases hf
    | error cause =>
      rw [hdoc] at hf
      cases hf
      exact ⟨cause, rfl, rfl⟩

/-- A file system in which every path leads to a file with this text. -/
def everyFile (text : String) : FileSystem where
  kind _ := some .file
  read _ := .ok text
  list _ := .error .notDirectory

theorem exists_document {text : String} (h :
    ((Toml.parse text).toOption.bind Entries.check?).bind Entries.said? = some said) :
    ∃ entries table, Toml.parse text = .ok entries ∧ entries.check? = some table ∧
      table.said? = some said := by
  obtain ⟨table, htable, hsaid⟩ := Option.bind_eq_some_iff.mp h
  obtain ⟨entries, hentries, htable⟩ := Option.bind_eq_some_iff.mp htable
  refine ⟨entries, table, ?_, htable, hsaid⟩
  cases hparse : Toml.parse text with
  | ok entries' =>
    rw [hparse] at hentries
    rw [Option.some_inj.mp hentries]
  | error trouble =>
    rw [hparse] at hentries
    cases hentries

/-- A code that is listed twice stays so; the misspelled key beside it is not passed over. -/
theorem load_of_document_misspelled :
    let text := "[check]\nwarn = [\"WEBSUB_104\", \"WEBSUB_104\"]"
    let misspelled := text ++ "\ndeny-warnings = true"
    (∃ s, load (everyFile text) "websub.toml" = .ok s ∧
      s.Hold [("warn", .texts ["WEBSUB_104", "WEBSUB_104"])]) ∧
    ∃ cause, load (everyFile misspelled) "websub.toml" =
      .error (.badSettings "websub.toml" misspelled cause) := by
  intro text misspelled
  have hread : (everyFile text).read "websub.toml" = .ok text := rfl
  have hread' : (everyFile misspelled).read "websub.toml" = .ok misspelled := rfl
  have hsaid : ((Toml.parse text).toOption.bind Entries.check?).bind Entries.said? =
      some [("warn", .texts ["WEBSUB_104", "WEBSUB_104"])] := by decide +kernel
  have hsaid' : ((Toml.parse misspelled).toOption.bind Entries.check?).bind Entries.said? =
      some [("warn", .texts ["WEBSUB_104", "WEBSUB_104"]), ("deny-warnings", .boolean true)] := by
    decide +kernel
  constructor
  · obtain ⟨entries, table, hparse, htable, hsaid⟩ := exists_document hsaid
    have hload : load (everyFile text) "websub.toml" =
        .ok ⟨none, [.unknownMethod, .unknownMethod], false, []⟩ := by decide +kernel
    exact ⟨_, hload, (load_of_document hread hparse htable hsaid).2.2.1 _ hload⟩
  · obtain ⟨entries, table, hparse, htable, hsaid⟩ := exists_document hsaid'
    obtain ⟨-, htaken, -, hrefused⟩ := load_of_document hread' hparse htable hsaid
    cases hload : load (everyFile misspelled) "websub.toml" with
    | ok s =>
      have haccepts := (htaken.mp ⟨s, hload⟩).2 ("deny-warnings", .boolean true) (by simp)
      exact absurd haccepts.mem_keys (by decide)
    | error f =>
      obtain ⟨cause, rfl, -⟩ := hrefused f hload
      exact ⟨cause, rfl⟩

end Settings
end SubscriberContract
