import SubscriberContract.Proofs.Files.Coherence
import SubscriberContract.Proofs.Files.UnitFiles
import SubscriberContract.Run

/-!
# A run over a directory, file by file

Checking files in order is checking each of them alone: what the first file gives comes first, and
the others follow on top of its totals unless it fails (`checkFiles_cons`). From this step follow the
run in which every file can be checked (`checkFiles_of_forall_ok`) and the run that stops at a file
(`checkFiles_of_first_error`). What a run reads of the file system is `ReadsAlike`, file by file: the
unit, and in the text format also the source that the unit names. That source may be a later unit, so
what is written before a run stops can show text that stands behind the failure.

The main statement `checkPath_directory` says this of a directory as the target, in terms of the runs
over its files as targets.
-/

namespace SubscriberContract

namespace Summary

/-- The totals of two runs together. -/
def plus (s s' : Summary) : Summary :=
  ⟨s.files + s'.files, s.errors + s'.errors, s.warnings + s'.warnings⟩

/-- The totals of several runs. -/
def total : List Summary → Summary
  | [] => empty
  | s :: ss => s.plus (total ss)

theorem plus_assoc (s s' s'' : Summary) : (s.plus s').plus s'' = s.plus (s'.plus s'') := by
  simp [plus, Nat.add_assoc]

theorem empty_plus (s : Summary) : empty.plus s = s := by
  simp [plus, empty]

theorem record_eq_plus (s : Summary) (ds : List Diagnostic) :
    s.record ds = s.plus (empty.record ds) := by
  simp [record, plus, empty]

end Summary

/-- The unit in the file at `path`. -/
def unitAt (fs : FileSystem) (path : String) : Except Failure CompilationUnit :=
  match fs.read path with
  | .error fault => .error (.unreadable path fault)
  | .ok text => (CompilationUnit.format.decode text).mapError (.undecodable path text)

/-- The report on the unit `u` in the file at `path`. -/
def UnitReport.ofUnit (fs : FileSystem) (path : String) (u : CompilationUnit) : UnitReport where
  path := path
  sourcePath := u.source.map (Path.beside path)
  source := (u.source.map (Path.beside path)).bind fun p => (fs.read p).toOption
  diagnostics := u.check

theorem UnitReport.load_eq_map (fs : FileSystem) (path : String) :
    load fs path = (unitAt fs path).map (ofUnit fs path) := by
  unfold load unitAt
  cases fs.read path with
  | error fault => rfl
  | ok text =>
    dsimp only
    cases CompilationUnit.format.decode text with
    | error cause => rfl
    | ok u => rfl

section

variable (fs : FileSystem) (settings : Settings) (format : OutputFormat)

/-- What checking one file gives. -/
def checkFile (path : String) : Checked := checkFiles fs settings format .empty [path]

theorem checkFile_of_error {path : String} {f : Failure} (h : unitAt fs path = .error f) :
    checkFile fs settings format path = .stopped f := by
  rw [checkFile, checkFiles, UnitReport.load_eq_map, h]
  rfl

theorem checkFile_of_ok {path : String} {u : CompilationUnit} (h : unitAt fs path = .ok u) :
    checkFile fs settings format path =
      ⟨((UnitReport.ofUnit fs path u).demote settings.warn).print format,
        .ok (Summary.empty.record (u.check.map (.demote settings.warn)))⟩ := by
  rw [checkFile, checkFiles, UnitReport.load_eq_map, h]
  simp only [Except.map, checkFiles, Checked.after, String.append_empty]
  rfl

/-- The step: the first file, and then the others on top of its totals. -/
theorem checkFiles_cons (s : Summary) (path : String) (paths : List String) :
    checkFiles fs settings format s (path :: paths) =
      match (checkFile fs settings format path).result with
      | .error f => .stopped f
      | .ok s' => (checkFiles fs settings format (s.plus s') paths).after
          (checkFile fs settings format path).output := by
  rw [checkFiles, UnitReport.load_eq_map]
  cases h : unitAt fs path with
  | error f =>
    rw [checkFile_of_error fs settings format h]
    rfl
  | ok u =>
    rw [checkFile_of_ok fs settings format h]
    dsimp only [Except.map]
    rw [Summary.record_eq_plus]
    rfl

/-- The run in which every file can be checked. -/
theorem checkFiles_of_forall_ok {paths : List String} {ss : List Summary} (s : Summary)
    (h : List.Forall₂ (fun path s' => (checkFile fs settings format path).result = .ok s')
      paths ss) :
    checkFiles fs settings format s paths =
      ⟨String.join (paths.map fun path => (checkFile fs settings format path).output),
        .ok (s.plus (.total ss))⟩ := by
  induction h generalizing s with
  | nil => rfl
  | cons h _ ih =>
    rw [checkFiles_cons, h]
    dsimp only
    rw [ih, Checked.after, List.map_cons, String.join_cons, Summary.plus_assoc, Summary.total]

/-- The run that stops at a file: what the files before it gave is all that is written. -/
theorem checkFiles_of_first_error {before : List String} {path : String} {f : Failure}
    (s : Summary) (after : List String)
    (hbefore : ∀ p ∈ before, ∃ s', (checkFile fs settings format p).result = .ok s')
    (h : (checkFile fs settings format path).result = .error f) :
    checkFiles fs settings format s (before ++ path :: after) =
      ⟨String.join (before.map fun path => (checkFile fs settings format path).output),
        .error f⟩ := by
  induction before generalizing s with
  | nil =>
    rw [List.nil_append, checkFiles_cons, h]
    rfl
  | cons p before ih =>
    obtain ⟨s', hs'⟩ := hbefore p List.mem_cons_self
    rw [List.cons_append, checkFiles_cons, hs']
    dsimp only
    rw [ih (s.plus s') fun q hq => hbefore q (List.mem_cons_of_mem _ hq), Checked.after,
      List.map_cons, String.join_cons]

end

/-! ## What a run reads -/

variable {fs fs' : FileSystem} {settings : Settings} {format : OutputFormat}

/-- What checking the file at `path` reads is the same in both file systems: the unit, and the
source that it names where sources are shown. -/
structure ReadsAlike (fs fs' : FileSystem) (format : OutputFormat) (path : String) : Prop where
  unit : fs'.read path = fs.read path
  source : format = .text → ∀ u source, unitAt fs path = .ok u → u.source = some source →
    fs'.read (Path.beside path source) = fs.read (Path.beside path source)

theorem unitAt_congr {path : String} (h : fs'.read path = fs.read path) :
    unitAt fs' path = unitAt fs path := by
  rw [unitAt, h, unitAt]

theorem checkFile_congr {path : String} (h : ReadsAlike fs fs' format path) :
    checkFile fs' settings format path = checkFile fs settings format path := by
  have hunit := unitAt_congr h.unit
  cases hu : unitAt fs path with
  | error f =>
    rw [checkFile_of_error _ _ _ hu, checkFile_of_error _ _ _ (hunit.trans hu)]
  | ok u =>
    rw [checkFile_of_ok _ _ _ hu, checkFile_of_ok _ _ _ (hunit.trans hu)]
    cases format with
    | json => rfl
    | text =>
      have hreport : UnitReport.ofUnit fs' path u = UnitReport.ofUnit fs path u := by
        unfold UnitReport.ofUnit
        congr 1
        refine Option.bind_congr fun p hp => ?_
        obtain ⟨source, hsource, rfl⟩ := Option.map_eq_some_iff.mp hp
        rw [h.source rfl u source hu hsource]
      rw [hreport]

theorem unitAt_of_checkFile_error {path : String} {f : Failure}
    (h : (checkFile fs settings format path).result = .error f) : unitAt fs path = .error f := by
  cases hu : unitAt fs path with
  | error f' =>
    rw [checkFile_of_error _ _ _ hu] at h
    exact congrArg Except.error (Except.error.inj h)
  | ok u =>
    rw [checkFile_of_ok _ _ _ hu] at h
    cases h

/-- Behind the file at which a run stops nothing matters. -/
theorem checkFiles_congr_of_first_error {before : List String} {path : String} {f : Failure}
    (s : Summary) (after after' : List String)
    (hbefore : ∀ p ∈ before, ∃ s', (checkFile fs settings format p).result = .ok s')
    (h : (checkFile fs settings format path).result = .error f)
    (hreads : ∀ p ∈ before, ReadsAlike fs fs' format p) (hread : fs'.read path = fs.read path) :
    checkFiles fs' settings format s (before ++ path :: after') =
      checkFiles fs settings format s (before ++ path :: after) := by
  have hsame : ∀ p ∈ before, checkFile fs' settings format p = checkFile fs settings format p :=
    fun p hp => checkFile_congr (hreads p hp)
  have hbefore' : ∀ p ∈ before, ∃ s', (checkFile fs' settings format p).result = .ok s' :=
    fun p hp => hsame p hp ▸ hbefore p hp
  have h' : (checkFile fs' settings format path).result = .error f := by
    rw [checkFile_of_error _ _ _ ((unitAt_congr hread).trans (unitAt_of_checkFile_error h))]
    rfl
  rw [checkFiles_of_first_error _ _ _ s after hbefore h,
    checkFiles_of_first_error _ _ _ s after' hbefore' h']
  congr 2
  exact List.map_congr_left fun p hp => congrArg Checked.output (hsame p hp)

/-! ## Files and directories as targets -/

theorem checkPath_eq_checkFiles {target : String} {files : List String}
    (h : unitFilesOf fs settings.exclude target = .ok files) (hne : files ≠ []) :
    checkPath fs settings format target = checkFiles fs settings format .empty files := by
  unfold checkPath
  rw [h]
  cases files with
  | nil => exact absurd rfl hne
  | cons file files => rfl

theorem unitFilesOf_file {exclude : List String} {path : String}
    (hkind : fs.kind path = some .file) (hname : Path.isUnitFile path = true) :
    unitFilesOf fs exclude path = .ok [path] := by
  rw [unitFilesOf, hkind]
  exact if_pos hname

theorem unitFilesOf_directory {exclude : List String} {path : String}
    (hkind : fs.kind path = some .directory) :
    unitFilesOf fs exclude path = UnitFiles.find fs exclude path := by
  rw [unitFilesOf, hkind]

/-- What is found below a directory stands for itself as a target. -/
theorem unitFilesOf_of_mem_find (h : fs.Coherent) {exclude : List String} {dir file : String}
    {files : List String} (hfind : UnitFiles.find fs exclude dir = .ok files)
    (hfile : file ∈ files) : unitFilesOf fs exclude file = .ok [file] := by
  cases hlist : fs.list dir with
  | error fault =>
    rw [UnitFiles.find, hlist] at hfind
    cases hfind
  | ok listing =>
    have hproper := h.proper dir listing hlist
    obtain ⟨way, hreached, hunit, rfl⟩ :=
      UnitFiles.exists_way_of_mem_find hlist hproper hfind hfile
    exact unitFilesOf_file (h.kind_file dir listing way hlist hreached)
      (hunit.isUnitFile (hreached.isName hproper))

theorem checkPath_of_mem_find (h : fs.Coherent) {dir file : String} {files : List String}
    (hfind : UnitFiles.find fs settings.exclude dir = .ok files) (hfile : file ∈ files) :
    checkPath fs settings format file = checkFile fs settings format file :=
  checkPath_eq_checkFiles (unitFilesOf_of_mem_find h hfind hfile) (List.cons_ne_nil _ _)

theorem files_of_checkFile {path : String} {s : Summary}
    (h : (checkFile fs settings format path).result = .ok s) : s.files = 1 := by
  cases hu : unitAt fs path with
  | error f =>
    rw [checkFile_of_error _ _ _ hu] at h
    cases h
  | ok u =>
    rw [checkFile_of_ok _ _ _ hu] at h
    cases h
    rfl

/-- What checking some files gave, for each of them. -/
theorem exists_summaries {files : List String}
    (h : ∀ file ∈ files, ∃ s, (checkFile fs settings format file).result = .ok s) :
    ∃ ss, List.Forall₂ (fun file s => (checkFile fs settings format file).result = .ok s) files ss ∧
      (Summary.total ss).files = files.length := by
  induction files with
  | nil => exact ⟨[], .nil, rfl⟩
  | cons file files ih =>
    obtain ⟨s, hs⟩ := h file List.mem_cons_self
    obtain ⟨ss, hss, hfiles⟩ := ih fun p hp => h p (List.mem_cons_of_mem _ hp)
    refine ⟨s :: ss, .cons hs hss, ?_⟩
    rw [Summary.total, Summary.plus, files_of_checkFile hs, hfiles, List.length_cons,
      Nat.add_comm]

/-- **A run over a directory is the sequence of the runs over its files, cut at the first failure.**
Where each file can be checked alone, the directory gives all their output in order, and the sums of
their totals. Otherwise it gives the failure of the first file that cannot be checked, and the output
of those before it. In the second case only those files matter, that one, and the sources that are
shown for the files before it. -/
theorem checkPath_directory {dir : String} {files : List String} (h : fs.Coherent)
    (hkind : fs.kind dir = some .directory)
    (hfind : UnitFiles.find fs settings.exclude dir = .ok files) (hne : files ≠ []) :
    ((∀ file ∈ files, ∃ s, (checkPath fs settings format file).result = .ok s) →
      ∃ ss, List.Forall₂ (fun file s => (checkPath fs settings format file).result = .ok s) files ss ∧
        (Summary.total ss).files = files.length ∧
        checkPath fs settings format dir =
          ⟨String.join (files.map fun file => (checkPath fs settings format file).output),
            .ok (Summary.total ss)⟩) ∧
    ∀ before file after f, files = before ++ file :: after →
      (∀ p ∈ before, ∃ s, (checkPath fs settings format p).result = .ok s) →
      (checkPath fs settings format file).result = .error f →
      checkPath fs settings format dir =
        ⟨String.join (before.map fun p => (checkPath fs settings format p).output), .error f⟩ ∧
      ∀ fs' : FileSystem, fs'.kind dir = fs.kind dir → fs'.list dir = fs.list dir →
        (∀ p ∈ before, ReadsAlike fs fs' format p) → fs'.read file = fs.read file →
        checkPath fs' settings format dir = checkPath fs settings format dir := by
  have hsingle : ∀ file ∈ files,
      checkPath fs settings format file = checkFile fs settings format file :=
    fun file hfile => checkPath_of_mem_find h hfind hfile
  have hruns : ∀ part ⊆ files,
      part.map (checkPath fs settings format) = part.map (checkFile fs settings format) :=
    fun part hpart => List.map_congr_left fun file hfile => hsingle file (hpart hfile)
  have houtput : ∀ part ⊆ files,
      (part.map fun file => (checkPath fs settings format file).output) =
        part.map fun file => (checkFile fs settings format file).output :=
    fun part hpart => by simpa using congrArg (List.map Checked.output) (hruns part hpart)
  have hdir (fs' : FileSystem) (hkind' : fs'.kind dir = fs.kind dir)
      (hlist : fs'.list dir = fs.list dir) :
      checkPath fs' settings format dir = checkFiles fs' settings format .empty files := by
    refine checkPath_eq_checkFiles ?_ hne
    rw [unitFilesOf_directory (hkind'.trans hkind), ← hfind, UnitFiles.find, hlist, UnitFiles.find]
  refine ⟨fun hall => ?_, ?_⟩
  · have hall' : ∀ file ∈ files, ∃ s, (checkFile fs settings format file).result = .ok s :=
      fun file hfile => hsingle file hfile ▸ hall file hfile
    obtain ⟨ss, hss, hfiles⟩ := exists_summaries hall'
    refine ⟨ss, ?_, hfiles, ?_⟩
    · rw [← List.forall₂_map_left_iff (R := fun c s => Checked.result c = .ok s)] at hss ⊢
      rwa [hruns files (List.Subset.refl _)]
    · rw [hdir fs rfl rfl, checkFiles_of_forall_ok fs settings format .empty hss,
        Summary.empty_plus, houtput files (List.Subset.refl _)]
  · rintro before file after f rfl hbefore hfile
    have hmem : before ⊆ before ++ file :: after := List.subset_append_left _ _
    rw [hsingle file (by simp)] at hfile
    have hbefore' : ∀ p ∈ before, ∃ s, (checkFile fs settings format p).result = .ok s :=
      fun p hp => hsingle p (hmem hp) ▸ hbefore p hp
    refine ⟨?_, fun fs' hkind' hlist hreads hread => ?_⟩
    · rw [hdir fs rfl rfl, houtput before hmem]
      exact checkFiles_of_first_error fs settings format .empty after hbefore' hfile
    · rw [hdir fs' hkind' hlist, hdir fs rfl rfl]
      exact checkFiles_congr_of_first_error .empty after after hbefore' hfile hreads hread

/-! ## A source that is a later unit -/

namespace LaterSource

/-- A unit with one service, and with another unit file as its source. -/
def unitText : String :=
  "\x7b\"source\": \"z.websub.json\", \"services\": [\x7b\"span\": [0, 1]\x7d]\x7d"

/-- Three units: the first names the last as its source, and the second is empty. -/
def entries (last : List UInt8) : FileTree.Entries :=
  [(.text "z.websub.json", .file last), (.text "b.websub.json", .file []),
    (.text "a.websub.json", .file (Text.bytes unitText.toList))]

def tree (last : List UInt8) : FileTree := .directory [(.text "d", .directory (entries last))]

def listing : Listing :=
  [(.text "z.websub.json", .file), (.text "b.websub.json", .file), (.text "a.websub.json", .file)]

variable (last : List UInt8)

theorem coherent : (tree last).fileSystem.Coherent := by
  refine FileTree.coherent ?_
  rintro _ ⟨⟩
  have h : Listing.Proper [(.text "d", .directory listing)] := by decide
  exact h

theorem node?_directory : (tree last).node? "d" = .ok (.directory (entries last)) :=
  FileTree.node?_name (by decide) rfl nofun

theorem kind : (tree last).fileSystem.kind "d" = some .directory := by
  show (tree last).kind "d" = _
  rw [FileTree.kind, node?_directory]

theorem list : (tree last).fileSystem.list "d" = .ok listing :=
  FileTree.list_eq_ok_iff.mpr ⟨_, node?_directory last, rfl⟩

theorem find : UnitFiles.find (tree last).fileSystem [] "d" =
    .ok ["d/a.websub.json", "d/b.websub.json", "d/z.websub.json"] := by
  rw [UnitFiles.find, list]
  dsimp only
  have hproper : listing.Proper := by decide
  have hblocked : ¬ UnitFiles.Blocked [] listing := by decide
  rw [UnitFiles.collect_of_rearranged hproper hblocked (.refl _)]
  decide

theorem read {name : String} {content : List UInt8} (hname : Path.IsName name)
    (h : (entries last).lookup (.text name) = some (.file content)) :
    (tree last).fileSystem.read (Path.join "d" name) =
      (Text.Utf8.decode? content).elim (.error .invalidText) .ok :=
  FileTree.read_of_node? (FileTree.node?_join hname (node?_directory last) h nofun)

theorem read_first : (tree last).fileSystem.read "d/a.websub.json" = .ok unitText := by
  have h : Text.Utf8.decode? (Text.bytes unitText.toList) = some unitText := by decide +kernel
  have hread := read last (by decide : Path.IsName "a.websub.json") rfl
  rwa [h] at hread

theorem read_second : (tree last).fileSystem.read "d/b.websub.json" = .ok "" := by
  have h : Text.Utf8.decode? [] = some "" := by decide +kernel
  have hread := read last (by decide : Path.IsName "b.websub.json") rfl
  rwa [h] at hread

theorem read_last : (tree last).fileSystem.read "d/z.websub.json" =
    (Text.Utf8.decode? last).elim (.error .invalidText) .ok :=
  read last (by decide : Path.IsName "z.websub.json") rfl

def firstUnit : CompilationUnit :=
  ⟨some "z.websub.json", [], [⟨⟨0, 1, by decide⟩, [], []⟩]⟩

theorem unitAt_first : unitAt (tree last).fileSystem "d/a.websub.json" = .ok firstUnit := by
  have h : CompilationUnit.format.decode unitText = .ok firstUnit := by decide +kernel
  rw [unitAt, read_first]
  dsimp only
  rw [h]
  rfl

theorem unitAt_second : ∃ f, unitAt (tree last).fileSystem "d/b.websub.json" = .error f := by
  have h : (CompilationUnit.format.decode "").toOption = none := by decide +kernel
  rw [unitAt, read_second]
  dsimp only
  cases hd : CompilationUnit.format.decode "" with
  | error cause => exact ⟨_, rfl⟩
  | ok u => simp [hd, Except.toOption] at h

/-- The report on the first unit, with the last file as its source. -/
theorem ofUnit_first : UnitReport.ofUnit (tree last).fileSystem "d/a.websub.json" firstUnit =
    ⟨"d/a.websub.json", some "d/z.websub.json", Text.Utf8.decode? last, firstUnit.check⟩ := by
  have hsource : firstUnit.source.map (Path.beside "d/a.websub.json") = some "d/z.websub.json" := by
    decide
  rw [UnitReport.ofUnit, hsource, Option.bind_some, read_last]
  cases Text.Utf8.decode? last <;> rfl

theorem checkFile_first : ∃ s,
    (checkFile (tree last).fileSystem default .text "d/a.websub.json").result = .ok s :=
  ⟨_, congrArg Checked.result (checkFile_of_ok _ default .text (unitAt_first last))⟩

theorem checkFile_second : ∃ f,
    (checkFile (tree last).fileSystem default .text "d/b.websub.json").result = .error f := by
  obtain ⟨f, hf⟩ := unitAt_second last
  exact ⟨f, congrArg Checked.result (checkFile_of_error _ default .text hf)⟩

/-- What is shown for the first unit is all that is written. -/
theorem output : (checkPath (tree last).fileSystem default .text "d").output =
    ((UnitReport.ofUnit (tree last).fileSystem "d/a.websub.json" firstUnit).demote []).print
      .text := by
  obtain ⟨f, hf⟩ := checkFile_second last
  have hcut := checkFiles_of_first_error _ default .text .empty ["d/z.websub.json"]
    (List.forall_mem_singleton.mpr (checkFile_first last)) hf
  have hdir : checkPath (tree last).fileSystem default .text "d" = _ :=
    checkPath_eq_checkFiles ((unitFilesOf_directory (kind last)).trans (find last))
      (List.cons_ne_nil _ _)
  rw [List.singleton_append] at hcut
  rw [hdir, hcut, List.map_singleton, checkFile_of_ok _ default .text (unitAt_first last),
    String.join_cons, String.join_nil, String.append_empty]
  rfl

end LaterSource

/-- A unit that cannot be decoded behind one that can. -/
theorem checkPath_directory_stopped :
    let fs := (LaterSource.tree []).fileSystem
    fs.Coherent ∧ fs.kind "d" = some .directory ∧
      UnitFiles.find fs [] "d" = .ok ["d/a.websub.json", "d/b.websub.json", "d/z.websub.json"] ∧
      ∃ f, checkPath fs default .text "d" =
        ⟨(checkPath fs default .text "d/a.websub.json").output, .error f⟩ := by
  intro fs
  have h := LaterSource.coherent []
  have hkind := LaterSource.kind []
  have hfind := LaterSource.find []
  have hsingle : ∀ file ∈ ["d/a.websub.json", "d/b.websub.json", "d/z.websub.json"],
      checkPath fs default .text file = checkFile fs default .text file :=
    fun file hfile => checkPath_of_mem_find h hfind hfile
  refine ⟨h, hkind, hfind, ?_⟩
  obtain ⟨s, hs⟩ := LaterSource.checkFile_first []
  obtain ⟨f, hf⟩ := LaterSource.checkFile_second []
  rw [← hsingle _ (by simp)] at hs hf
  have hdir := (checkPath_directory h hkind hfind (List.cons_ne_nil _ _)).2 ["d/a.websub.json"] _ _ f
    rfl (List.forall_mem_singleton.mpr ⟨s, hs⟩) hf
  refine ⟨f, ?_⟩
  rw [hdir.1, List.map_singleton, String.join_cons, String.join_nil, String.append_empty]

/-- A later unit is shown where an earlier one names it as its source: the text behind the unit that
cannot be decoded makes a difference. -/
theorem checkPath_directory_shows_later_source :
    let fs := (LaterSource.tree [0x78]).fileSystem
    let fs' := (LaterSource.tree [0xFF]).fileSystem
    let files := ["d/a.websub.json", "d/b.websub.json", "d/z.websub.json"]
    UnitFiles.find fs [] "d" = .ok files ∧ UnitFiles.find fs' [] "d" = .ok files ∧
      (∀ file ∈ files, file ≠ "d/z.websub.json" → fs'.read file = fs.read file) ∧
      (∃ s, (checkPath fs default .text "d/a.websub.json").result = .ok s) ∧
      (∃ f, (checkPath fs default .text "d/b.websub.json").result = .error f) ∧
      (checkPath fs' default .text "d").output ≠ (checkPath fs default .text "d").output := by
  intro fs fs' files
  have hsingle : ∀ file ∈ files, checkPath fs default .text file = checkFile fs default .text file :=
    fun file hfile => checkPath_of_mem_find (LaterSource.coherent _) (LaterSource.find _) hfile
  refine ⟨LaterSource.find _, LaterSource.find _, ?_, ?_, ?_, ?_⟩
  · intro file hfile hlast
    rcases List.mem_cons.mp hfile with rfl | hfile
    · exact (LaterSource.read_first _).trans (LaterSource.read_first _).symm
    · rcases List.mem_cons.mp hfile with rfl | hfile
      · exact (LaterSource.read_second _).trans (LaterSource.read_second _).symm
      · exact absurd (List.mem_singleton.mp hfile) hlast
  · rw [hsingle _ (by simp [files])]
    exact LaterSource.checkFile_first _
  · rw [hsingle _ (by simp [files])]
    exact LaterSource.checkFile_second _
  · rw [LaterSource.output, LaterSource.output, LaterSource.ofUnit_first, LaterSource.ofUnit_first]
    decide +kernel

end SubscriberContract
