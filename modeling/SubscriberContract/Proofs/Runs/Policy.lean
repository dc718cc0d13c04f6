import SubscriberContract.Proofs.Runs.Stepwise
import SubscriberContract.Proofs.Validation.Subjects

/-!
# Which runs fail

What the checks find are errors, all of them. The settings turn the listed codes into warnings,
diagnostic by diagnostic, and leave everything else as it was (`Demoted`). So the totals of a run
count what was found by its codes (`checkPath_of_completes`), and whether a run fails is a property
of what was found (`Settings.Rejects`) in which neither the format nor the order of the listed codes
has a place.
-/

namespace SubscriberContract

/-- Checking the target comes to its end: unit files are found, and each holds a unit. -/
structure Completes (fs : FileSystem) (settings : Settings) (target : String)
    (paths : List String) (units : List CompilationUnit) : Prop where
  files : unitFilesOf fs settings.exclude target = .ok paths
  ne_nil : paths ≠ []
  units : List.Forall₂ (fun path u => unitAt fs path = .ok u) paths units

/-- The second diagnostic is the first as a run reports it: the severity of the listed codes is that
of a warning, and nothing else has changed. -/
structure Demoted (warn : List Code) (d d' : Diagnostic) : Prop where
  code : d'.code = d.code
  span : d'.span = d.span
  arguments : d'.arguments = d.arguments
  message : d'.message = d.message
  hint : d'.hint = d.hint
  listed : d.code ∈ warn → d'.severity = .warning
  unlisted : d.code ∉ warn → d'.severity = d.severity

/-- Why a run with these settings fails on what was found: there is a code that is not listed, or
there is anything at all where warnings are denied. -/
def Settings.Rejects (settings : Settings) (found : List Diagnostic) : Prop :=
  (∃ d ∈ found, d.code ∉ settings.warn) ∨ settings.denyWarnings = true ∧ found ≠ []

instance (settings : Settings) (found : List Diagnostic) : Decidable (settings.Rejects found) := by
  unfold Settings.Rejects; infer_instance

/-! ## Diagnostics as a run reports them -/

theorem demoted_demote (warn : List Code) (d : Diagnostic) : Demoted warn d (d.demote warn) := by
  unfold Diagnostic.demote
  by_cases h : d.code ∈ warn
  · rw [if_pos (List.contains_iff_mem.mpr h)]
    exact ⟨rfl, rfl, rfl, rfl, rfl, fun _ => rfl, fun h' => absurd h h'⟩
  · rw [if_neg (by rwa [List.contains_iff_mem])]
    exact ⟨rfl, rfl, rfl, rfl, rfl, fun h' => absurd h' h, fun _ => rfl⟩

theorem Diagnostic.IsOriginal.isError_demote {d : Diagnostic} (h : d.IsOriginal)
    (warn : List Code) : (d.demote warn).isError = decide (d.code ∉ warn) := by
  have hd := demoted_demote warn d
  by_cases hc : d.code ∈ warn
  · simp [Diagnostic.isError, hd.listed hc, hc]
  · simp [Diagnostic.isError, hd.unlisted hc, h.severity, hc]

/-- The totals of one unit, by the codes of what was found in it. -/
theorem record_demote {ds : List Diagnostic} (h : ∀ d ∈ ds, d.IsOriginal) (warn : List Code) :
    Summary.empty.record (ds.map (.demote warn)) =
      ⟨1, ds.countP (·.code ∉ warn), ds.countP (·.code ∈ warn)⟩ := by
  unfold Summary.record Summary.empty
  congr 1
  · rw [Nat.zero_add, List.countP_map]
    exact List.countP_congr fun d hd => by simp [(h d hd).isError_demote warn]
  · rw [Nat.zero_add, List.countP_map]
    exact List.countP_congr fun d hd => by simp [(h d hd).isError_demote warn]

/-! ## A run that comes to its end -/

variable {fs fs' : FileSystem} {settings settings' : Settings} {target : String}
  {paths : List String} {units : List CompilationUnit}

/-- The reports on units, as a run shows them. -/
def reportsOn (fs : FileSystem) (warn : List Code) (paths : List String)
    (units : List CompilationUnit) : List UnitReport :=
  List.zipWith (fun path u => (UnitReport.ofUnit fs path u).demote warn) paths units

theorem forall₂_demoted_reportsOn (warn : List Code)
    (h : List.Forall₂ (fun path u => unitAt fs path = .ok u) paths units) :
    List.Forall₂ (Demoted warn) (units.flatMap (·.check))
      ((reportsOn fs warn paths units).flatMap (·.diagnostics)) := by
  induction h with
  | nil => exact .nil
  | @cons path u paths units _ _ ih =>
    rw [reportsOn, List.zipWith_cons_cons, List.flatMap_cons, List.flatMap_cons]
    refine List.rel_append ?_ ih
    show List.Forall₂ _ u.check (u.check.map _)
    rw [List.forall₂_map_right_iff]
    exact List.forall₂_same.mpr fun d _ => demoted_demote warn d

theorem map_path_reportsOn (warn : List Code)
    (h : List.Forall₂ (fun path u => unitAt fs path = .ok u) paths units) :
    (reportsOn fs warn paths units).map (·.path) = paths := by
  induction h with
  | nil => rfl
  | cons _ _ ih =>
    rw [reportsOn, List.zipWith_cons_cons, List.map_cons]
    exact congrArg _ ih

/-- What checking each file gives. -/
theorem map_checkFile (format : OutputFormat)
    (h : List.Forall₂ (fun path u => unitAt fs path = .ok u) paths units) :
    paths.map (checkFile fs settings format) =
      (reportsOn fs settings.warn paths units).map fun r =>
        ⟨r.print format, .ok (Summary.empty.record r.diagnostics)⟩ := by
  induction h with
  | nil => rfl
  | cons hu _ ih =>
    rw [List.map_cons, ih, checkFile_of_ok fs settings format hu]
    rfl

theorem forall₂_result_checkFile (format : OutputFormat)
    (h : List.Forall₂ (fun path u => unitAt fs path = .ok u) paths units) :
    List.Forall₂ (fun path s => (checkFile fs settings format path).result = .ok s) paths
      ((reportsOn fs settings.warn paths units).map fun r => Summary.empty.record r.diagnostics) := by
  rw [← List.forall₂_map_left_iff (R := fun c s => Checked.result c = .ok s),
    map_checkFile format h, List.forall₂_map_left_iff, List.forall₂_map_right_iff]
  exact List.forall₂_same.mpr fun _ _ => rfl

/-- The totals of a run, by the codes of what was found in all units. -/
theorem total_reportsOn (warn : List Code)
    (h : List.Forall₂ (fun path u => unitAt fs path = .ok u) paths units) :
    Summary.total ((reportsOn fs warn paths units).map fun r =>
      Summary.empty.record r.diagnostics) =
      ⟨paths.length, (units.flatMap (·.check)).countP (·.code ∉ warn),
        (units.flatMap (·.check)).countP (·.code ∈ warn)⟩ := by
  induction h with
  | nil => rfl
  | @cons path u paths units _ _ ih =>
    have hu : Summary.empty.record ((UnitReport.ofUnit fs path u).demote warn).diagnostics = _ :=
      record_demote (fun d hd => u.isOriginal_of_mem_check hd) warn
    unfold reportsOn at ih ⊢
    rw [List.zipWith_cons_cons, List.map_cons, Summary.total, ih, hu, List.flatMap_cons,
      List.countP_append, List.countP_append, List.length_cons, Nat.add_comm paths.length]
    rfl

theorem checkPath_of_completes (format : OutputFormat)
    (h : Completes fs settings target paths units) :
    checkPath fs settings format target =
      ⟨String.join ((reportsOn fs settings.warn paths units).map (·.print format)),
        .ok ⟨paths.length, (units.flatMap (·.check)).countP (·.code ∉ settings.warn),
          (units.flatMap (·.check)).countP (·.code ∈ settings.warn)⟩⟩ := by
  have houtput : (paths.map fun path => (checkFile fs settings format path).output) =
      (reportsOn fs settings.warn paths units).map (·.print format) := by
    have hruns : paths.map (checkFile fs settings format) = _ := map_checkFile format h.units
    have hmap := congrArg (List.map Checked.output) hruns
    rwa [List.map_map, List.map_map] at hmap
  rw [checkPath_eq_checkFiles h.files h.ne_nil,
    checkFiles_of_forall_ok fs settings format .empty (forall₂_result_checkFile format h.units),
    houtput, total_reportsOn _ h.units, Summary.empty_plus]

/-! ## The verdict -/

theorem countP_add_countP (warn : List Code) (found : List Diagnostic) :
    found.countP (·.code ∉ warn) + found.countP (·.code ∈ warn) = found.length := by
  rw [List.length_eq_countP_add_countP (fun d : Diagnostic => decide (d.code ∈ warn)),
    Nat.add_comm]
  simp only [decide_not, Bool.not_eq_true, decide_eq_false_iff_not]

theorem isFailure_iff_rejects (n : Nat) (found : List Diagnostic) :
    Summary.isFailure ⟨n, found.countP (·.code ∉ settings.warn),
      found.countP (·.code ∈ settings.warn)⟩ settings.denyWarnings = true ↔
      settings.Rejects found := by
  have herror : 0 < found.countP (·.code ∉ settings.warn) ↔
      ∃ d ∈ found, d.code ∉ settings.warn := by
    simp [List.countP_pos_iff]
  have hlength : found ≠ [] ↔ 0 < found.length := List.length_pos_iff.symm
  have hcount := countP_add_countP settings.warn found
  rw [Summary.isFailure, Settings.Rejects, ← herror, hlength, ← hcount]
  dsimp only
  generalize found.countP (·.code ∉ settings.warn) = errors,
    found.countP (·.code ∈ settings.warn) = warnings
  cases settings.denyWarnings with
  | false => simp
  | true =>
    simp only [Bool.or_eq_true, Bool.true_and, decide_eq_true_iff, true_and]
    omega

theorem failure_run (hfind : Settings.find fs (Settings.rootOf fs target) = .ok settings)
    (h : Completes fs settings target paths units) (flag : Option OutputFormat) :
    (run fs target flag).failure =
      if settings.Rejects (units.flatMap (·.check)) then
        some (.findings (units.flatMap (·.check)).length paths.length)
      else none := by
  have hverdict (format : OutputFormat) :
      verdict settings (checkPath fs settings format target).result =
        if settings.Rejects (units.flatMap (·.check)) then
          some (.findings (units.flatMap (·.check)).length paths.length)
        else none := by
    rw [checkPath_of_completes format h]
    dsimp only [verdict]
    simp only [isFailure_iff_rejects]
    rw [Summary.diagnostics, countP_add_countP]
  unfold run
  rw [hfind]
  dsimp only
  cases (flag <|> settings.format).getD .text with
  | text => exact hverdict .text
  | json => exact hverdict .json

/-! ## Other settings -/

namespace Settings.Rejects

variable {found : List Diagnostic}

/-- Listing more codes rejects no more. -/
theorem of_subset (hwarn : settings.warn ⊆ settings'.warn)
    (hdeny : settings'.denyWarnings = settings.denyWarnings) (h : settings'.Rejects found) :
    settings.Rejects found := by
  rcases h with ⟨d, hd, hcode⟩ | ⟨hdenied, hne⟩
  · exact .inl ⟨d, hd, fun hlisted => hcode (hwarn hlisted)⟩
  · exact .inr ⟨hdeny ▸ hdenied, hne⟩

/-- Where warnings are denied, whatever is found is rejected. -/
theorem iff_of_denied (hdeny : settings.denyWarnings = true) :
    settings.Rejects found ↔ found ≠ [] := by
  refine ⟨?_, fun hne => .inr ⟨hdeny, hne⟩⟩
  rintro (⟨d, hd, -⟩ | ⟨-, hne⟩)
  · exact List.ne_nil_of_mem hd
  · exact hne

end Settings.Rejects

/-- **The policy of a run that comes to its end.** Each diagnostic that the checks found in the units
is reported in its place with nothing changed but the severity of the listed codes; the totals count
the found ones by their codes; and the run fails exactly where the settings reject what was found,
with the number of all that was found and of the files. So neither the format nor the order or the
repetition of listed codes matters, listing more codes fails no more runs, and where warnings are
denied the listed codes do not matter at all. -/
theorem run_of_completes (h : Completes fs settings target paths units) :
    let found := units.flatMap (·.check)
    let unlisted := found.countP (·.code ∉ settings.warn)
    let listed := found.countP (·.code ∈ settings.warn)
    unlisted + listed = found.length ∧
    (∀ format, ∃ reports : List UnitReport, reports.map (·.path) = paths ∧
      List.Forall₂ (Demoted settings.warn) found (reports.flatMap (·.diagnostics)) ∧
      checkPath fs settings format target =
        ⟨String.join (reports.map (·.print format)), .ok ⟨paths.length, unlisted, listed⟩⟩) ∧
    (Settings.find fs (Settings.rootOf fs target) = .ok settings → ∀ flag : Option OutputFormat,
      ((run fs target flag).failure ≠ none ↔
        (∃ d ∈ found, d.code ∉ settings.warn) ∨ settings.denyWarnings = true ∧ found ≠ []) ∧
      (∀ f, (run fs target flag).failure = some f →
        f = .findings found.length paths.length ∧
        let plural := if found.length = 1 then "" else "s"
        f.message = s!"{found.length} diagnostic{plural} found in {paths.length} file(s)") ∧
      ∀ (fs' : FileSystem) (settings' : Settings) (flag' : Option OutputFormat),
        Settings.find fs' (Settings.rootOf fs' target) = .ok settings' →
        Completes fs' settings' target paths units →
        ((∀ c, c ∈ settings'.warn ↔ c ∈ settings.warn) →
          settings'.denyWarnings = settings.denyWarnings →
          (run fs' target flag').failure = (run fs target flag).failure) ∧
        (settings.warn ⊆ settings'.warn → settings'.denyWarnings = settings.denyWarnings →
          (run fs target flag).failure = none → (run fs' target flag').failure = none) ∧
        (settings.denyWarnings = true → settings'.denyWarnings = true →
          (run fs' target flag').failure = (run fs target flag).failure)) := by
  intro found unlisted listed
  refine ⟨countP_add_countP settings.warn found, fun format => ?_, fun hfind flag => ?_⟩
  · exact ⟨reportsOn fs settings.warn paths units, map_path_reportsOn settings.warn h.units,
      forall₂_demoted_reportsOn settings.warn h.units, checkPath_of_completes format h⟩
  have hfailure := failure_run hfind h flag
  refine ⟨?_, fun f hf => ?_, fun fs' settings' flag' hfind' h' => ?_⟩
  · show _ ↔ settings.Rejects found
    rw [hfailure]
    by_cases hrejects : settings.Rejects found
    · rw [if_pos hrejects]
      exact iff_of_true nofun hrejects
    · rw [if_neg hrejects]
      exact iff_of_false (fun hne => hne rfl) hrejects
  · rw [hfailure] at hf
    obtain ⟨-, hf⟩ := Option.ite_none_right_eq_some.mp hf
    cases hf
    exact ⟨rfl, rfl⟩
  have hfailure' := failure_run hfind' h' flag'
  have hsame (hrejects : settings'.Rejects found ↔ settings.Rejects found) :
      (run fs' target flag').failure = (run fs target flag).failure := by
    rw [hfailure, hfailure', if_congr hrejects rfl rfl]
  refine ⟨fun hwarn hdeny => ?_, fun hwarn hdeny hpass => ?_, fun hdeny hdeny' => ?_⟩
  · exact hsame ⟨.of_subset (fun c => (hwarn c).mpr) hdeny,
      .of_subset (fun c => (hwarn c).mp) hdeny.symm⟩
  · rw [hfailure, ite_eq_right_iff] at hpass
    rw [hfailure', ite_eq_right_iff]
    exact fun hrejects => hpass (hrejects.of_subset hwarn hdeny)
  · exact hsame (by rw [Settings.Rejects.iff_of_denied hdeny, Settings.Rejects.iff_of_denied hdeny'])

/-- One unit without the marker and the handlers, and settings that list one of the two codes. -/
def listedMarker : FileSystem where
  kind _ := some .file
  read path :=
    if path = "./websub.toml" then .ok "[check]\nwarn = [\"WEBSUB_101\", \"WEBSUB_101\"]"
    else .ok "\x7b\"services\": [\x7b\"span\": [0, 1]\x7d]\x7d"
  list _ := .error .notDirectory

/-- A code that is not listed fails the run, and a code that is listed twice counts once. -/
theorem run_of_completes_listed :
    let settings : Settings := ⟨none, [.missingMarker, .missingMarker], false, []⟩
    let u : CompilationUnit := ⟨none, [], [⟨⟨0, 1, by decide⟩, [], []⟩]⟩
    Completes listedMarker settings "a.websub.json" ["a.websub.json"] [u] ∧
      Settings.find listedMarker (Settings.rootOf listedMarker "a.websub.json") = .ok settings ∧
      u.check.map (·.code) = [.missingMarker, .missingNotification] ∧
      (checkPath listedMarker settings .json "a.websub.json").result = .ok ⟨1, 1, 1⟩ ∧
      (run listedMarker "a.websub.json" none).failure = some (.findings 2 1) := by
  intro settings u
  have hunit : unitAt listedMarker "a.websub.json" = .ok u := by decide +kernel
  have h : Completes listedMarker settings "a.websub.json" ["a.websub.json"] [u] :=
    ⟨by decide, by decide, .cons hunit .nil⟩
  have hfind : Settings.find listedMarker (Settings.rootOf listedMarker "a.websub.json") =
      .ok settings := by
    decide +kernel
  obtain ⟨-, hreports, hrun⟩ := run_of_completes h
  obtain ⟨reports, -, -, hchecked⟩ := hreports .json
  obtain ⟨hfails, hfailure, -⟩ := hrun hfind none
  obtain ⟨f, hf⟩ := Option.ne_none_iff_exists'.mp (hfails.mpr (by decide))
  refine ⟨h, hfind, by decide, ?_, ?_⟩
  · rw [hchecked]
    rfl
  · rw [hf, (hfailure f hf).1]
    decide

end SubscriberContract
