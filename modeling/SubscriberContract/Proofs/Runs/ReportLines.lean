import SubscriberContract.Proofs.Json.Faithful
import SubscriberContract.Proofs.Runs.Stepwise

/-!
# Reports in lines of JSON

A report writes each diagnostic as an object and ends it with a line feed. Whatever characters the
texts of the diagnostic and the path hold, the compact text of the object has no line feed of its
own, and the object is read back from it: `OneLine` is kept by arrays and objects, so it holds of a
tree once it holds of the texts and numbers in it. Hence the lines of what is written are the
diagnostics, one for one (`UnitReport.print_json_lines`).
-/

namespace SubscriberContract

namespace Json

/-! ## Trees on one line -/

/-- The text holds no control character, so no line feed. -/
def Unbroken (t : Input) : Prop := ∀ c ∈ t, ¬ c < ' '

instance : DecidablePred Unbroken := List.decidableBAll _

theorem unbroken_cons {c : Char} {t : Input} : Unbroken (c :: t) ↔ ¬ c < ' ' ∧ Unbroken t :=
  List.forall_mem_cons

theorem unbroken_append {t u : Input} : Unbroken (t ++ u) ↔ Unbroken t ∧ Unbroken u :=
  List.forall_mem_append

theorem Unbroken.no_line_feed {t : Input} (h : Unbroken t) : '\n' ∉ t := fun hmem =>
  h '\n' hmem (by decide)

theorem unbroken_escaped (c : Char) : Unbroken (escaped c) := by
  unfold escaped
  split <;> try decide
  split
  · next hc =>
    have hdigits : ∀ n < 32, ¬ hexDigit (n / 16) < ' ' ∧ ¬ hexDigit (n % 16) < ' ' := by decide
    obtain ⟨hhigh, hlow⟩ := hdigits c.toNat hc
    simp only [unbroken_cons]
    exact ⟨by decide, by decide, by decide, by decide, hhigh, hlow, by decide⟩
  · next hc => exact List.forall_mem_singleton.mpr hc

theorem unbroken_stringChars (s : String) : Unbroken (stringChars s) := by
  have hescaped : Unbroken (s.toList.flatMap escaped) := by
    intro c hc
    obtain ⟨d, -, hd⟩ := List.mem_flatMap.mp hc
    exact unbroken_escaped d c hd
  rw [stringChars, List.cons_append, unbroken_cons, unbroken_append]
  exact ⟨by decide, hescaped, by decide⟩

theorem unbroken_toDigits (n : Nat) : Unbroken (Nat.toDigits 10 n) := by
  intro c hc hbroken
  have hdigit := isDigit_of_mem_toDigits hc
  rw [isDigit, Bool.and_eq_true, decide_eq_true_iff] at hdigit
  have hle : 48 ≤ c.toNat := hdigit.1
  have hlt : c.toNat < 32 := hbroken
  omega

theorem unbroken_array {items : List Json} (h : ∀ j ∈ items, Unbroken j.chars) :
    Unbroken (Json.array items).chars := by
  have hitems : Unbroken (itemChars items) := by
    induction items with
    | nil => decide
    | cons j items ih =>
      obtain ⟨hj, hrest⟩ := List.forall_mem_cons.mp h
      cases items with
      | nil => exact unbroken_append.mpr ⟨hj, by decide⟩
      | cons k items =>
        rw [itemChars, unbroken_append, unbroken_cons]
        exact ⟨hj, by decide, ih hrest⟩
  exact unbroken_cons.mpr ⟨by decide, hitems⟩

theorem unbroken_object {members : List (String × Json)} (h : ∀ p ∈ members, Unbroken p.2.chars) :
    Unbroken (Json.object members).chars := by
  have hmembers : Unbroken (memberChars members) := by
    induction members with
    | nil => decide
    | cons p members ih =>
      obtain ⟨hp, hrest⟩ := List.forall_mem_cons.mp h
      have hname := unbroken_stringChars p.1
      cases members with
      | nil =>
        rw [memberChars, unbroken_append, unbroken_append, unbroken_cons]
        exact ⟨⟨hname, by decide, hp⟩, by decide⟩
      | cons m members =>
        rw [memberChars, unbroken_append, unbroken_append, unbroken_cons, unbroken_cons]
        exact ⟨⟨hname, by decide, hp⟩, by decide, ih hrest⟩
  exact unbroken_cons.mpr ⟨by decide, hmembers⟩

/-- The compact text of the tree is one line, from which the tree is read back; at most `levels`
arrays and objects are open inside one another. -/
structure OneLine (levels : Nat) (j : Json) : Prop where
  unbroken : Unbroken j.chars
  written : Written .exact j j.chars
  shallow : j.depth ≤ levels

namespace OneLine

variable {levels : Nat}

theorem null : OneLine levels .null := ⟨by decide, .null, Nat.zero_le _⟩

theorem text (s : String) : OneLine levels (.text s) :=
  ⟨unbroken_stringChars s, written_text s, Nat.zero_le _⟩

theorem optional_text (s : Option String) : OneLine levels (s.elim .null .text) := by
  cases s with
  | none => exact null
  | some s => exact text s

theorem word (n : UInt32) : OneLine levels (.natural n.toNat) := by
  have hfits : n.toNat < UInt64.size := Nat.lt_trans n.toNat_lt (by decide)
  exact ⟨unbroken_toDigits _, written_natural hfits, Nat.zero_le _⟩

theorem array {items : List Json} (h : ∀ j ∈ items, OneLine levels j) :
    OneLine (levels + 1) (.array items) where
  unbroken := unbroken_array fun j hj => (h j hj).unbroken
  written := written_array fun j hj => (h j hj).written
  shallow := depth_array_le.mpr fun j hj => (h j hj).shallow

theorem object {members : List (String × Json)} (h : ∀ p ∈ members, OneLine levels p.2) :
    OneLine (levels + 1) (.object members) where
  unbroken := unbroken_object fun p hp => (h p hp).unbroken
  written := written_object fun p hp => (h p hp).written
  shallow := depth_object_le.mpr fun p hp => (h p hp).shallow

theorem parse_compact {j : Json} (h : OneLine levels j) (hl : levels ≤ maxDepth) :
    parse j.compact = .ok j :=
  readWhole_compact (readTree_takes (Nat.le_trans h.shallow hl)) h.written

end OneLine
end Json

/-! ## Lines of a report -/

open Json (OneLine)

theorem Diagnostic.oneLine_reportTree (d : Diagnostic) (path : String) :
    OneLine 2 (d.reportTree path) := by
  have harguments : ∀ j ∈ d.arguments.map Json.text, OneLine 0 j := by
    intro j hj
    obtain ⟨s, -, rfl⟩ := List.mem_map.mp hj
    exact .text s
  refine .object ?_
  simp only [List.forall_mem_cons]
  exact ⟨.array harguments, .text _, .text _, .optional_text _, .text _, .text _, .word _, .word _,
    List.forall_mem_nil _⟩

namespace UnitReport

/-- The lines of a report in JSON. -/
def jsonLines (r : UnitReport) : List String :=
  r.diagnostics.map fun d => (d.reportTree r.shownPath).compact

theorem print_json_eq (r : UnitReport) :
    r.print .json = String.join (r.jsonLines.map (· ++ "\n")) := by
  rw [jsonLines, List.map_map]
  rfl

theorem no_line_feed_of_mem_jsonLines {r : UnitReport} :
    ∀ line ∈ r.jsonLines.map String.toList, '\n' ∉ line := by
  intro line hline
  rw [jsonLines, List.map_map] at hline
  obtain ⟨d, -, rfl⟩ := List.mem_map.mp hline
  have hd := (d.oneLine_reportTree r.shownPath).unbroken.no_line_feed
  simpa [Json.compact] using hd

theorem splitOn_print_json (r : UnitReport) :
    Text.splitOn '\n' (r.print .json).toList = r.jsonLines.map String.toList ++ [[]] := by
  have hended : (r.print .json).toList =
      (r.jsonLines.map String.toList).flatMap (· ++ ['\n']) := by
    rw [print_json_eq, String.toList_join, List.flatMap_map, List.flatMap_map]
    simp
  rw [hended, Text.splitOn_flatMap_ended no_line_feed_of_mem_jsonLines]

theorem shownPath_ofUnit (fs : FileSystem) (path : String) (u : CompilationUnit) :
    (ofUnit fs path u).shownPath = u.source.elim path (Path.beside path) := by
  cases hsource : u.source <;> simp [shownPath, ofUnit, hsource]

/-- What is shown for a unit file below a directory: a source that it names is named from the
directory that the unit file is in. -/
theorem shownPath_ofUnit_foldl_join (fs : FileSystem) {dir name : String} {way : List String}
    (hdir : Path.IsTidy dir) (hway : ∀ n ∈ way, Path.IsName n) (h : Path.IsName name)
    (u : CompilationUnit) :
    (ofUnit fs ((way ++ [name]).foldl Path.join dir) u).shownPath =
      u.source.elim ((way ++ [name]).foldl Path.join dir)
        (Path.join (way.foldl Path.join dir)) := by
  have hbeside := funext (Path.beside_foldl_join hdir hway h)
  rw [shownPath_ofUnit, hbeside]

/-- **Lines of JSON.** A report writes one line for each diagnostic, in order, each ended by the
only line feed in it, and nothing else; and from the line of a diagnostic is read the object with
the path that is shown and with the parts of the diagnostic, whatever characters the texts hold. The
path that is shown is that of the source where the unit names one, from the parent of the unit file
if it has one, and that of the unit file otherwise. -/
theorem print_json_lines :
    (∀ r : UnitReport, ∃ lines : List String,
      r.print .json = String.join (lines.map (· ++ "\n")) ∧
      Text.splitOn '\n' (r.print .json).toList = lines.map String.toList ++ [[]] ∧
      (r.print .json).toList.count '\n' = r.diagnostics.length ∧
      List.Forall₂ (fun d line => Json.parse line = .ok (.object
        [("arguments", .array (d.arguments.map .text)), ("code", .text d.code.label),
          ("file", .text r.shownPath), ("hint", d.hint.elim .null .text),
          ("message", .text d.message), ("severity", .text d.severity.name),
          ("span_end", .natural d.span.stop.toNat),
          ("span_start", .natural d.span.start.toNat)])) r.diagnostics lines) ∧
    ∀ (fs : FileSystem) (path : String),
      (load fs path).map shownPath =
        (unitAt fs path).map fun u =>
          u.source.elim path fun x => (Path.parent? path).elim x (Path.join · x) := by
  refine ⟨fun r => ⟨r.jsonLines, r.print_json_eq, r.splitOn_print_json, ?_, ?_⟩, fun fs path => ?_⟩
  · have hlength : (Text.splitOn '\n' (r.print .json).toList).length = _ := Text.length_splitOn _
    rw [splitOn_print_json] at hlength
    simpa [jsonLines] using hlength.symm
  · refine List.forall₂_map_right_iff.mpr (List.forall₂_same.mpr fun d _ => ?_)
    exact (d.oneLine_reportTree r.shownPath).parse_compact (by decide)
  · rw [load_eq_map]
    cases unitAt fs path with
    | error f => rfl
    | ok u => exact congrArg Except.ok (shownPath_ofUnit fs path u)

end UnitReport
end SubscriberContract
