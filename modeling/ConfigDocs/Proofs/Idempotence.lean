import ConfigDocs.Proofs.Recursion
import ConfigDocs.Proofs.Replay
import ConfigDocs.Proofs.Walk

/-!
# Generating twice

A run in which every file could be written can be repeated: it reports the same and leaves the disk
as it is, unless a path of which it has said that it is no directory is a directory in the end.  The
exception is real.  A pass with separate tables that asks for a file writes next to that file, and
if a later pass makes a directory of the same name, then the next run finds it and writes into it.
`soloProject` is the smallest project with such passes; with the first of them alone it is still
idempotent, though it is warned.
-/

set_option autoImplicit false

namespace ConfigDocs

variable {fs : FileSystem}

/-! ## Passes that write one file -/

namespace Project

theorem succeeds_plan (project : Project) (t : TypeDecl) (options : PassOptions) (fs : FileSystem) :
    Report.Succeeds ⟨[], (project.planOn t options fs).diagnostics⟩ := by
  intro d hd
  rw [planOn, planFor] at hd
  rcases List.mem_cons.1 hd with rfl | hd
  · simp [Diagnostic.code]
  · rcases List.mem_append.1 hd with hd | hd
    · unfold targetWarnings at hd
      split at hd
      · rw [List.mem_singleton.1 hd]
        simp [Diagnostic.code]
      · cases hd
    · obtain ⟨file, -, rfl⟩ := List.mem_map.1 hd
      simp [Diagnostic.code]

/-- A pass with one file does not fail if the file can be written. -/
theorem run_runPass_of_write {project : Project} {t : TypeDecl} {options : PassOptions}
    {file : RenderedFile} (hfiles : (project.planOn t options fs).files = [file])
    (hwritten : (fs.run file.write).1 = .ok ()) :
    ∃ report, fs.run (project.runPass t options) = (report, (fs.run file.write).2) ∧
      report.Succeeds := by
  have hrun : fs.run (writeFiles [file]) = (⟨[file.path], []⟩, (fs.run file.write).2) := by
    rw [writeFiles, FileSystem.run_bind, hwritten]
    rfl
  refine ⟨⟨[], (project.planOn t options fs).diagnostics⟩ ++ ⟨[file.path], []⟩, ?_, ?_⟩
  · rw [run_runPass, hfiles, hrun]
  · exact Report.succeeds_append.2 ⟨succeeds_plan project t options fs,
      fun _ h ↦ absurd h List.not_mem_nil⟩

/-- A type that leads nowhere has one page, and so one file. -/
theorem exists_files_planOn_of_discovered {project : Project} {t : TypeDecl} {options : PassOptions}
    (h : project.catalog.discovered t = [t]) (hlayout : options.layout = .separate) :
    ∃ file : RenderedFile, (project.planOn t options fs).files = [file] ∧
      file.path = (project.targetOn options fs).home.join ⟨(Ledger.empty.claim
        (Catalog.baseFileName t options.includeNamespaces) options.format.extension).1⟩ := by
  rw [← List.map_eq_singleton_iff]
  simp only [planOn, planFor, filesFor, Catalog.pages, hlayout, Catalog.separatePages_eq,
    Catalog.pageNames, h]
  rfl

/-- Only one type asks for documentation, and every attribute of it gives settings. -/
theorem run_generateAll_of_documentedTypes {project : Project} {t : TypeDecl}
    (h : project.catalog.documentedTypes = [t]) (hskipped : skippedAttributes t = [])
    (fs : FileSystem) :
    fs.run project.generateAll = fs.run (project.runPasses t (passes t)) := by
  have hrun : fs.run (project.generateEach [t]) =
      (⟨[], skippedAttributes t⟩ ++ (fs.run (project.runPasses t (passes t))).1 ++ .empty,
        (fs.run (project.runPasses t (passes t))).2) := rfl
  rw [generateAll, h, hrun, hskipped]
  exact Prod.ext ((Report.append_empty _).trans (Report.empty_append _)) rfl

end Project

theorem RenderedFile.run_put_of_endsAt {file : RenderedFile} {outer : Place} {last : List Char}
    (h : fs.EndsAt file.path outer last false)
    (hfree : fs.occupant? (String.ofList last :: outer) ≠ some .directory) :
    (fs.run file.put).1 = .ok () ∧
      fs.IsPut (String.ofList last :: outer) (.file (.text file.contents)) (fs.run file.put).2 := by
  obtain ⟨fs', hwritten, hput⟩ := h.exists_writeContent (.text file.contents) hfree
  have hrun : fs.run file.put = (.ok (), fs') := by
    rw [put, FileSystem.run_bind, run_writeText, hwritten]
    rfl
  rw [hrun]
  exact ⟨rfl, hput⟩

/-! ## A contested path -/

/-- A type without properties, with these attributes. -/
def soloType (attributes : List Attribute) : TypeDecl :=
  { Catalog.plainClass "Config" [] with attributes }

/-- The project of such a type. -/
def soloProject (attributes : List Attribute) : Project where
  catalog :=
    { types := [soloType attributes]
      reserved := defaultReserved
      distinct := by simp }

/-- Asks for separate tables at the path of a file. -/
def tablesMarker : Attribute :=
  ⟨"Documentation", [.integer 1, .text "out.md", .integer 1]⟩

/-- Asks for one table in a directory at the same path. -/
def tableMarker : Attribute :=
  ⟨"Documentation", [.integer 1, .text "out.md/"]⟩

/-- The settings of `tablesMarker`. -/
def tablesPass : PassOptions :=
  ⟨.markdown, "out.md", .separate, false⟩

/-- The settings of `tableMarker`. -/
def tablePass : PassOptions :=
  ⟨.markdown, "out.md/", .inline, false⟩

/-- Asks for the separate tables only. -/
def warnedProject : Project :=
  soloProject [tablesMarker]

/-- Asks for both, the separate tables first. -/
def contestedProject : Project :=
  soloProject [tablesMarker, tableMarker]

theorem discovered_soloType (attributes : List Attribute) :
    (soloProject attributes).catalog.discovered (soloType attributes) = [soloType attributes] := by
  have htasks : (soloProject attributes).catalog.tasksOf (soloType attributes) "" = [] := rfl
  rw [Catalog.discovered, Catalog.walk, htasks, Catalog.walkFrom_nil]
  rfl

theorem run_warnedProject (fs : FileSystem) :
    fs.run warnedProject.generateAll =
      fs.run ((soloProject [tablesMarker]).runPass (soloType [tablesMarker]) tablesPass) := by
  have htypes : (soloProject [tablesMarker]).catalog.documentedTypes =
      [soloType [tablesMarker]] := by decide
  have hpasses : Project.passes (soloType [tablesMarker]) = [tablesPass] := by decide
  rw [warnedProject, Project.run_generateAll_of_documentedTypes htypes (by decide), hpasses,
    Project.run_runPasses_cons, Project.run_runPasses_nil, Report.append_empty]

theorem run_contestedProject (fs : FileSystem) :
    fs.run contestedProject.generateAll =
      fs.run ((soloProject [tablesMarker, tableMarker]).runPasses
        (soloType [tablesMarker, tableMarker]) [tablesPass, tablePass]) := by
  have htypes : (soloProject [tablesMarker, tableMarker]).catalog.documentedTypes =
      [soloType [tablesMarker, tableMarker]] := by decide
  have hpasses : Project.passes (soloType [tablesMarker, tableMarker]) =
      [tablesPass, tablePass] := by decide
  rw [contestedProject, Project.run_generateAll_of_documentedTypes htypes (by decide),
    hpasses]

/-- Nothing stands at the contested path at first. -/
theorem endsAt_contested : FileSystem.empty.EndsAt ⟨"out.md"⟩ [] "out.md".toList false :=
  ⟨by decide, rfl, by decide, by decide, by decide +kernel⟩

theorem targetOn_tablesPass (attributes : List Attribute) :
    (soloProject attributes).targetOn tablesPass .empty = .file ⟨"out.md"⟩ := by
  have hclosed : OutputTarget.ofRequest "out.md" ⟨""⟩
      (FileSystem.empty.isDirectory (OutputTarget.requestedPath "out.md" ⟨""⟩)) =
        .file ⟨"out.md"⟩ := by decide
  exact hclosed

/-- The separate tables go next to the file. -/
theorem run_tablesPass (attributes : List Attribute) :
    ∃ report fs content,
      FileSystem.empty.run ((soloProject attributes).runPass (soloType attributes) tablesPass) =
        (report, fs) ∧
      report.Succeeds ∧ FileSystem.empty.IsPut ["Config.md"] (.file content) fs := by
  obtain ⟨file, hfiles, hpath⟩ : ∃ file : RenderedFile,
      ((soloProject attributes).planOn (soloType attributes) tablesPass .empty).files = [file] ∧
        file.path = _ :=
    Project.exists_files_planOn_of_discovered (discovered_soloType attributes) rfl
  have hname : file.path = ⟨"Config.md"⟩ := by
    rw [hpath, targetOn_tablesPass]
    have hclosed : (OutputTarget.file ⟨"out.md"⟩).home.join
      ⟨(Ledger.empty.claim "Config" ".md").1⟩ = ⟨"Config.md"⟩ := by decide
    exact hclosed
  have hend : FileSystem.empty.EndsAt file.path [] "Config.md".toList false := by
    rw [hname]
    exact ⟨by decide, rfl, by decide, by decide, by decide +kernel⟩
  have hparent : ∀ parent, file.path.parent? = some parent → parent.text.isEmpty = true := by
    have hclosed : (⟨"Config.md"⟩ : Path).parent? = some ⟨""⟩ := by decide
    rw [hname, hclosed]
    rintro _ ⟨⟩
    rfl
  obtain ⟨hwritten, hput⟩ := RenderedFile.run_put_of_endsAt hend (by decide)
  rw [← RenderedFile.write_eq_put hparent] at hwritten hput
  obtain ⟨report, hrun, hsucceeds⟩ := Project.run_runPass_of_write hfiles hwritten
  exact ⟨report, _, _, hrun, hsucceeds, hput⟩

section AfterTables

variable {content : Content} (hfs : FileSystem.empty.IsPut ["Config.md"] (.file content) fs)

include hfs

theorem empty_le_of_tables : FileSystem.empty ≤ fs := by
  refine hfs.le fun kind hkind ↦ ?_
  cases hkind

theorem occupant?_contested : fs.occupant? ["out.md"] = none := by
  rw [hfs.occupant?]
  rfl

theorem isDirectory_contested : fs.isDirectory ⟨"out.md"⟩ = false := by
  cases hdirectory : fs.isDirectory ⟨"out.md"⟩ with
  | false => rfl
  | true =>
    have hend := endsAt_contested.of_le (empty_le_of_tables hfs)
    have hout : fs.occupant? ["out.md"] = some .directory :=
      hend.occupant?_of_isDirectory hdirectory
    rw [occupant?_contested hfs] at hout
    cases hout

end AfterTables

theorem targetOn_tablePass (attributes : List Attribute) (fs : FileSystem) :
    (soloProject attributes).targetOn tablePass fs = .directory ⟨"out.md/"⟩ := by
  have hslash : Path.endsWithSlash ⟨"out.md/"⟩ = true := by decide
  have hpath : OutputTarget.requestedPath "out.md/" ⟨""⟩ = ⟨"out.md/"⟩ := by decide
  have hdirectory : ∀ occupied, OutputTarget.ofRequest "out.md/" ⟨""⟩ occupied =
      .directory ⟨"out.md/"⟩ := by
    intro occupied
    rw [OutputTarget.ofRequest, hslash, hpath]
    rfl
  exact hdirectory _

theorem endsAt_inside (hle : FileSystem.empty ≤ fs)
    (hdirectory : fs.occupant? ["out.md"] = some .directory) :
    fs.EndsAt ⟨"out.md/Config.md"⟩ ["out.md"] "Config.md".toList false := by
  refine ⟨?_, hdirectory, by decide, by decide, by decide⟩
  have hstart : FileSystem.empty.start ⟨"out.md/Config.md"⟩ =
      .ok ([], ["out.md".toList, "Config.md".toList]) := by decide
  have hlast : FileSystem.lastPiece ["out.md".toList, "Config.md".toList] =
      some (["out.md".toList], "Config.md".toList, false) := by decide
  have hfollow : fs.follow [] ["out.md".toList] = .ok ["out.md"] := by
    have hname : String.ofList "out.md".toList = "out.md" := by decide
    rw [FileSystem.follow, (endsAt_contested.of_le hle).step_eq, hname, hdirectory]
    rfl
  rw [FileSystem.enclosing, FileSystem.start_of_le hle, hstart]
  simp only [hlast, hfollow]

/-- The one table goes into a directory at the path of that file. -/
theorem run_tablePass (attributes : List Attribute) {content : Content}
    (hfs : FileSystem.empty.IsPut ["Config.md"] (.file content) fs) :
    ∃ report fs',
      fs.run ((soloProject attributes).runPass (soloType attributes) tablePass) = (report, fs') ∧
      report.Succeeds ∧ fs'.isDirectory ⟨"out.md"⟩ = true := by
  obtain ⟨file, hfiles, hpath⟩ : ∃ file : RenderedFile,
      ((soloProject attributes).planOn (soloType attributes) tablePass fs).files = [file] ∧
        file.path = _ :=
    Project.exists_files_planOn_of_inline rfl
  have hname : file.path = ⟨"out.md/Config.md"⟩ := by
    have hclosed : (⟨"out.md/"⟩ : Path).join ⟨(Ledger.empty.claim "Config" ".md").1⟩ =
      ⟨"out.md/Config.md"⟩ := by decide
    rw [hpath, targetOn_tablePass]
    simp only [Project.pagePath, Catalog.inlinePage]
    exact hclosed
  have hparent : file.path.parent? = some ⟨"out.md"⟩ := by
    rw [hname]
    decide
  -- First the directory is made, and then the file is written into it.
  have hend := endsAt_contested.of_le (empty_le_of_tables hfs)
  have hfree := occupant?_contested hfs
  obtain ⟨made, hmade, hput⟩ := hend.exists_makeDirectories rfl hfree
  have hbelow : fs ≤ made := hput.le fun kind hkind ↦ by simp [FileSystem.kind?, hfree] at hkind
  have hdirectory : made.occupant? ["out.md"] = some .directory := hput.occupant?_self
  have hinside := endsAt_inside ((empty_le_of_tables hfs).trans hbelow) hdirectory
  rw [← hname] at hinside
  have hempty : made.occupant? ["Config.md", "out.md"] = none := by
    rw [hput.occupant?, hfs.occupant?]
    rfl
  have hwritten := (RenderedFile.run_put_of_endsAt hinside (by simp [hempty])).1
  have hrun : fs.run file.write = made.run file.put := by
    rw [RenderedFile.write_eq_bind hparent rfl, FileSystem.run_bind, run_makeDirectories, hmade]
  rw [← hrun] at hwritten
  obtain ⟨report, hpass, hsucceeds⟩ := Project.run_runPass_of_write hfiles hwritten
  refine ⟨report, _, hpass, hsucceeds, ?_⟩
  rw [hrun]
  exact FileSystem.isDirectory_of_le (file.grows_put made)
    ((hend.of_le hbelow).isDirectory hdirectory)

/-! ## A second run -/

/-- A second run ends like the first one: with the same report, and with the same entries at all
places. -/
structure IsRepeatedBy (first second : Report × FileSystem) : Prop where
  /-- The same files are written, in the same order. -/
  written : second.1.written = first.1.written
  /-- The same is reported. -/
  diagnostics : second.1.diagnostics = first.1.diagnostics
  /-- Relative paths start where they did. -/
  workingPlace : second.2.workingPlace = first.2.workingPlace
  /-- Every file and every directory is as it was. -/
  occupant? : ∀ place, second.2.occupant? place = first.2.occupant? place

/-- **A replayable program is idempotent** as long as what it took for no directory is none after
it, and only then. -/
theorem Replayable.isRepeatedBy_iff {x : StateM FileSystem Report} (hx : Replayable x)
    (hsucceeds : (fs.run x).1.Succeeds) :
    IsRepeatedBy (fs.run x) ((fs.run x).2.run x) ↔ (fs.run x).1.HoldsOn (fs.run x).2 := by
  refine ⟨fun h path home hmem ↦ ?_, fun hholds ↦ ?_⟩
  · -- A second run would only say so if it were true.
    rw [← h.diagnostics] at hmem
    exact hx.holdsOn (fs.run x).2 path home hmem
  · have hstart : Overlay (fs.run x).2 fs (fs.run x).2 := ⟨le_rfl, le_rfl, fun _ ↦ .inr rfl⟩
    obtain ⟨hreport, hend⟩ := hx.repeats hsucceeds hholds le_rfl _ hstart
    exact ⟨by rw [hreport], by rw [hreport], (FileSystem.workingPlace_of_le hend.le).symm,
      fun place ↦ (hend.occupant? place).elim id id⟩

/-- **Generation is idempotent** as long as no path that the first run has said to be no directory
is one after it, and only then. -/
theorem Project.generateAll_isRepeatedBy_iff (project : Project) (fs : FileSystem)
    (h : ∀ d ∈ (fs.run project.generateAll).1.diagnostics, d.code ≠ "CDG001") :
    IsRepeatedBy (fs.run project.generateAll)
        ((fs.run project.generateAll).2.run project.generateAll) ↔
      ∀ path home, .notDirectory path home ∈ (fs.run project.generateAll).1.diagnostics →
        (fs.run project.generateAll).2.isDirectory path = false :=
  project.replayable_generateAll.isRepeatedBy_iff h

/-- A project that is warned of a path is idempotent if nothing makes a directory there. -/
theorem Project.generateAll_isRepeatedBy_warned :
    (∀ d ∈ (FileSystem.empty.run warnedProject.generateAll).1.diagnostics, d.code ≠ "CDG001") ∧
      IsRepeatedBy (FileSystem.empty.run warnedProject.generateAll)
        ((FileSystem.empty.run warnedProject.generateAll).2.run warnedProject.generateAll) := by
  obtain ⟨report, fs, content, hrun, hsucceeds, hput⟩ := run_tablesPass [tablesMarker]
  have hfirst : FileSystem.empty.run warnedProject.generateAll = (report, fs) :=
    (run_warnedProject .empty).trans hrun
  have hwarned : (FileSystem.empty.run ((soloProject [tablesMarker]).runPass
      (soloType [tablesMarker]) tablesPass)).1.HoldsOn fs := by
    refine holdsOn_runPass fun path htarget ↦ ?_
    rw [targetOn_tablesPass] at htarget
    obtain rfl := OutputTarget.file.inj htarget
    exact isDirectory_contested hput
  rw [hrun] at hwarned
  have hiff := warnedProject.generateAll_isRepeatedBy_iff .empty
  rw [hfirst] at hiff ⊢
  exact ⟨hsucceeds, (hiff hsucceeds).2 hwarned⟩

/-- A project that asks for separate tables at a path is not idempotent if it also asks for a
directory there: the first run says that the path is no directory, and the second run does not. -/
theorem Project.generateAll_contested :
    (∀ d ∈ (FileSystem.empty.run contestedProject.generateAll).1.diagnostics, d.code ≠ "CDG001") ∧
      ((FileSystem.empty.run contestedProject.generateAll).2.run
        contestedProject.generateAll).1.diagnostics ≠
          (FileSystem.empty.run contestedProject.generateAll).1.diagnostics := by
  obtain ⟨report, fs, content, hrun, hsucceeds, hput⟩ := run_tablesPass [tablesMarker, tableMarker]
  obtain ⟨report', fs', hrun', hsucceeds', hdirectory⟩ :=
    run_tablePass [tablesMarker, tableMarker] hput
  have hfirst : FileSystem.empty.run contestedProject.generateAll = (report ++ report', fs') := by
    rw [run_contestedProject, run_runPasses_cons, run_runPasses_cons, run_runPasses_nil, hrun]
    dsimp only
    rw [hrun', Report.append_empty]
  have hwarned : .notDirectory ⟨"out.md"⟩ (OutputTarget.file ⟨"out.md"⟩).home ∈
      report.diagnostics := by
    have hreport := congrArg (fun result ↦ result.1.diagnostics) hrun
    dsimp only at hreport
    rw [← hreport, run_runPass]
    refine List.mem_append_left _ ?_
    exact notDirectory_mem_planOn.2 ⟨targetOn_tablesPass _, rfl, by rw [targetOn_tablesPass]⟩
  rw [hfirst]
  refine ⟨Report.succeeds_append.2 ⟨hsucceeds, hsucceeds'⟩, fun hsame ↦ ?_⟩
  have hagain : .notDirectory ⟨"out.md"⟩ (OutputTarget.file ⟨"out.md"⟩).home ∈
      (fs'.run contestedProject.generateAll).1.diagnostics := by
    rw [hsame]
    exact List.mem_append_left _ hwarned
  have hfalse := contestedProject.replayable_generateAll.holdsOn fs' _ _ hagain
  rw [hdirectory] at hfalse
  cases hfalse

end ConfigDocs
