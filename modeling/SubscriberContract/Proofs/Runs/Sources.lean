import SubscriberContract.Proofs.Outcome
import SubscriberContract.Proofs.Runs.Stepwise

/-!
# Sources are only shown

The source that a unit names is read to be shown in the text report and for nothing else. So where
two file systems have the same unit files, whatever else they hold, either both stop a run for the
same reason or neither does; what is found and counted is the same, and so is every line of JSON.
The step is one file (`agrees_checkFile`), and from it follows a run over any files
(`agrees_checkFiles`).
-/

namespace SubscriberContract

/-- The reports say the same, whatever source is shown with them. -/
structure UnitReport.SameButSource (r r' : UnitReport) : Prop where
  path : r'.path = r.path
  sourcePath : r'.sourcePath = r.sourcePath
  diagnostics : r'.diagnostics = r.diagnostics

/-- Checking ended the same way, and wrote the same where no source is shown. -/
structure Checked.Agrees (format : OutputFormat) (c c' : Checked) : Prop where
  result : c'.result = c.result
  output : format = .json → c'.output = c.output

theorem Checked.Agrees.eq_of_json {c c' : Checked} (h : c.Agrees .json c') : c' = c := by
  obtain ⟨output, result⟩ := c
  obtain ⟨output', result'⟩ := c'
  obtain rfl : result' = result := h.result
  obtain rfl : output' = output := h.output rfl
  rfl

/-! ## Reports -/

namespace UnitReport.SameButSource

variable {r r' : UnitReport}

theorem ofUnit (fs fs' : FileSystem) (path : String) (u : CompilationUnit) :
    (UnitReport.ofUnit fs path u).SameButSource (.ofUnit fs' path u) := ⟨rfl, rfl, rfl⟩

theorem demote (h : r.SameButSource r') (warn : List Code) :
    (r.demote warn).SameButSource (r'.demote warn) where
  path := h.path
  sourcePath := h.sourcePath
  diagnostics := congrArg (List.map (Diagnostic.demote warn)) h.diagnostics

/-- A line of JSON has the path that is shown in it, but nothing of the source. -/
theorem print_json (h : r.SameButSource r') : r'.print .json = r.print .json := by
  have hshown : r'.shownPath = r.shownPath := by
    rw [shownPath, h.path, h.sourcePath, shownPath]
  unfold print entry entryLine
  rw [h.diagnostics, hshown]

end UnitReport.SameButSource

/-! ## Runs -/

variable {fs fs' : FileSystem} {path : String}

theorem unitAt_eq_ok_iff {u : CompilationUnit} : unitAt fs path = .ok u ↔
    ∃ text, fs.read path = .ok text ∧ CompilationUnit.format.decode text = .ok u := by
  unfold unitAt
  cases hread : fs.read path with
  | error fault => simp
  | ok text =>
    dsimp only
    cases hu : CompilationUnit.format.decode text with
    | error cause => simp [hu, Except.mapError]
    | ok u' => simp [hu, Except.mapError]

section

variable (settings : Settings) (format : OutputFormat)

theorem agrees_checkFile (h : fs'.read path = fs.read path) :
    (checkFile fs settings format path).Agrees format (checkFile fs' settings format path) := by
  have hunit := unitAt_congr h
  cases hu : unitAt fs path with
  | error f =>
    rw [checkFile_of_error _ _ _ hu, checkFile_of_error _ _ _ (hunit.trans hu)]
    exact ⟨rfl, fun _ => rfl⟩
  | ok u =>
    rw [checkFile_of_ok _ _ _ hu, checkFile_of_ok _ _ _ (hunit.trans hu)]
    refine ⟨rfl, ?_⟩
    rintro rfl
    exact ((UnitReport.SameButSource.ofUnit fs fs' path u).demote settings.warn).print_json

/-- Each file adds the same to both runs, and both stop at the first one that holds no unit. -/
theorem agrees_checkFiles {paths : List String} (h : ∀ p ∈ paths, fs'.read p = fs.read p)
    (s : Summary) : (checkFiles fs settings format s paths).Agrees format
      (checkFiles fs' settings format s paths) := by
  induction paths generalizing s with
  | nil => exact ⟨rfl, fun _ => rfl⟩
  | cons path paths ih =>
    obtain ⟨hpath, hpaths⟩ := List.forall_mem_cons.mp h
    have hfile := agrees_checkFile settings format hpath
    rw [checkFiles_cons, checkFiles_cons, hfile.result]
    cases (checkFile fs settings format path).result with
    | error f => exact ⟨rfl, fun _ => rfl⟩
    | ok s' =>
      have hrest := ih hpaths (s.plus s')
      refine ⟨hrest.result, fun hjson => ?_⟩
      show _ ++ _ = _ ++ _
      rw [hfile.output hjson, hrest.output hjson]

/-- The same unit files are checked with the same outcome. -/
theorem agrees_checkPath {target : String}
    (hfiles : unitFilesOf fs' settings.exclude target = unitFilesOf fs settings.exclude target)
    (hread : ∀ files, unitFilesOf fs settings.exclude target = .ok files →
      ∀ p ∈ files, fs'.read p = fs.read p) :
    (checkPath fs settings format target).Agrees format
      (checkPath fs' settings format target) := by
  unfold checkPath
  rw [hfiles]
  cases hfound : unitFilesOf fs settings.exclude target with
  | error f => exact ⟨rfl, fun _ => rfl⟩
  | ok files =>
    cases files with
    | nil => exact ⟨rfl, fun _ => rfl⟩
    | cons file files => exact agrees_checkFiles settings format (hread _ hfound) .empty

end

/-- **The text of a source is only shown.** A unit file is checked exactly if it can be read and
decoded, and what is found in it is what the checks find in the unit. Where two file systems agree
on the unit file, both reports fail with the same failure, or both are there and differ at most in
the source; so under all settings the totals and the JSON are the same, of the reports and of a run
over the file. Of what stands at the path of the source, or at any other path, nothing is
assumed. -/
theorem load_of_same_unit (hread : fs'.read path = fs.read path) :
    ((∃ r, UnitReport.load fs path = .ok r) ↔
      ∃ text u, fs.read path = .ok text ∧ CompilationUnit.format.decode text = .ok u) ∧
    ((∃ f, UnitReport.load fs path = .error f ∧ UnitReport.load fs' path = .error f) ∨
      ∃ text u r r', fs.read path = .ok text ∧ CompilationUnit.format.decode text = .ok u ∧
        UnitReport.load fs path = .ok r ∧ UnitReport.load fs' path = .ok r' ∧
        r.SameButSource r' ∧ r.diagnostics = u.check ∧
        ∀ (warn : List Code) (s : Summary),
          s.record (r'.demote warn).diagnostics = s.record (r.demote warn).diagnostics ∧
          (r'.demote warn).print .json = (r.demote warn).print .json) ∧
    (fs.kind path = some .file → fs'.kind path = some .file →
      ∀ (settings : Settings) (format : OutputFormat),
        (checkPath fs' settings format path).result = (checkPath fs settings format path).result ∧
        checkPath fs' settings .json path = checkPath fs settings .json path) := by
  refine ⟨?_, ?_, fun hkind hkind' settings format => ?_⟩
  · simp only [UnitReport.load_eq_map, map_eq_ok_iff, unitAt_eq_ok_iff]
    constructor
    · rintro ⟨r, u, ⟨text, htext, hu⟩, -⟩
      exact ⟨text, u, htext, hu⟩
    · rintro ⟨text, u, htext, hu⟩
      exact ⟨_, u, ⟨text, htext, hu⟩, rfl⟩
  · rw [UnitReport.load_eq_map, UnitReport.load_eq_map, unitAt_congr hread]
    cases hu : unitAt fs path with
    | error f => exact .inl ⟨f, rfl, rfl⟩
    | ok u =>
      obtain ⟨text, htext, hdecode⟩ := unitAt_eq_ok_iff.mp hu
      have hsame := UnitReport.SameButSource.ofUnit fs fs' path u
      refine .inr ⟨text, u, _, _, htext, hdecode, rfl, rfl, hsame, rfl, fun warn s => ?_⟩
      exact ⟨congrArg s.record (hsame.demote warn).diagnostics, (hsame.demote warn).print_json⟩
  · have hfiles : unitFilesOf fs' settings.exclude path = unitFilesOf fs settings.exclude path := by
      rw [unitFilesOf, unitFilesOf, hkind, hkind']
    have hunits : ∀ files, unitFilesOf fs settings.exclude path = .ok files →
        ∀ p ∈ files, fs'.read p = fs.read p := by
      intro files hfound p hp
      rw [unitFilesOf, hkind] at hfound
      dsimp only at hfound
      split at hfound
      · cases hfound
        rw [List.mem_singleton.mp hp, hread]
      · cases hfound
    have hagrees (format : OutputFormat) := agrees_checkPath settings format hfiles hunits
    exact ⟨(hagrees format).result, (hagrees .json).eq_of_json⟩

/-- A unit that names a source, with this outcome of reading it. -/
def besideSource (source : Except ReadFault String) : FileSystem where
  kind _ := some .file
  read path :=
    if path = "a.websub.json" then
      .ok "\x7b\"source\": \"a.bal\", \"services\": [\x7b\"span\": [0, 1]\x7d]\x7d"
    else source
  list _ := .error .notDirectory

/-- A source that is no text and one that is one: only the text report shows the difference. -/
theorem load_of_same_unit_shown :
    let fs := besideSource (.error .invalidText)
    let fs' := besideSource (.ok "x")
    fs'.read "a.websub.json" = fs.read "a.websub.json" ∧ fs'.read "a.bal" ≠ fs.read "a.bal" ∧
      (checkPath fs' default .text "a.websub.json").result =
        (checkPath fs default .text "a.websub.json").result ∧
      (checkPath fs' default .json "a.websub.json").output =
        (checkPath fs default .json "a.websub.json").output ∧
      (checkPath fs' default .text "a.websub.json").output ≠
        (checkPath fs default .text "a.websub.json").output := by
  intro fs fs'
  have hread : fs'.read "a.websub.json" = fs.read "a.websub.json" := rfl
  have hsame := (load_of_same_unit hread).2.2 rfl rfl default .text
  refine ⟨hread, nofun, hsame.1, congrArg Checked.output hsame.2, ?_⟩
  decide +kernel

end SubscriberContract
