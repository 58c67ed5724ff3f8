import ConfigDocs.Proofs.NamedTypes
import ConfigDocs.Proofs.Recursion

/-!
# What a run leaves in its files

Names of files are given out by a ledger that lasts for one pass, so nothing keeps two passes from
writing to the same place, and the later one replaces what the earlier one has written.  This is the
only way to lose anything: a file that a run reports as written is there in the end, and it holds
what was planned for it, or for the last file after it that has gone to the same place
(`Project.readText_delivered`).  `namesakes` loses a file in this way: its two types have the same
simple name and ask for the same directory.

Two paths may lead to the same place without being the same text, so files are told apart by the
place to which their paths lead on the disk that the run leaves (`FileSystem.place?`).  What happens
to a disk during a run is a sequence of two kinds of steps, of which `FileSystem.Wrote` keeps
record: directories are made where nothing stood, and a file is put at the end of its path.
-/

set_option autoImplicit false

namespace ConfigDocs

variable {fs fs' final : FileSystem}

namespace FileSystem

/-- The place a path leads to, if there is one. -/
def place? (fs : FileSystem) (p : Path) : Option Place :=
  (fs.locate p).toOption

/-- A path leads to its end if something is there. -/
theorem EndsAt.locate_of_isSome {p : Path} {outer : Place} {last : List Char}
    (h : fs.EndsAt p outer last false)
    (hend : (fs.occupant? (String.ofList last :: outer)).isSome = true) :
    fs.locate p = .ok (String.ofList last :: outer) := by
  obtain ⟨k, hk, hlocate⟩ := h.locate_eq
  rw [hlocate, h.step_eq, if_pos hend, hk rfl]
  rfl

/-- A file is put at a place, and its path will always lead to that place. -/
theorem exists_isPut_of_writeContent {p : Path} {content : Content}
    (h : fs.writeContent p content = .ok fs') :
    ∃ place, fs.IsPut place (.file content) fs' ∧
      ∀ {final : FileSystem}, fs' ≤ final → final.locate p = .ok place := by
  obtain ⟨outer, last, hend, -, hput⟩ := writeContent_eq_ok h
  refine ⟨_, hput, fun hle ↦ ?_⟩
  have hsome : (fs'.occupant? (String.ofList last :: outer)).isSome = true := by
    rw [hput.occupant?_self]
    rfl
  exact (hend.of_le ((le_of_writeContent h).trans hle)).locate_of_isSome
    (isSome_occupant?_of_le hle hsome)

theorem IsBuiltOn.occupant?_file (h : fs.IsBuiltOn fs') {place : Place} {content : Content}
    (hplace : fs.occupant? place = some (.file content)) :
    fs'.occupant? place = some (.file content) := by
  rcases h.occupant? place with hsame | ⟨hnone, -⟩
  · rw [hsame, hplace]
  · rw [hplace] at hnone
    cases hnone

/-! ## A disk while files are written -/

/-- One disk comes out of another when these files are written in order, and directories are made
in between. -/
inductive Wrote : FileSystem → List RenderedFile → FileSystem → Prop
  /-- Nothing is done. -/
  | nothing (fs : FileSystem) : Wrote fs [] fs
  /-- Directories are made first. -/
  | build {fs fs' final : FileSystem} {files : List RenderedFile} (hbuilt : fs.IsBuiltOn fs')
      (hrest : Wrote fs' files final) : Wrote fs files final
  /-- A file is written first. -/
  | write {fs fs' final : FileSystem} {file : RenderedFile} {files : List RenderedFile}
      (hwritten : fs.writeContent file.path (.text file.contents) = .ok fs')
      (hrest : Wrote fs' files final) : Wrote fs (file :: files) final

namespace Wrote

variable {files : List RenderedFile}

theorem le (h : Wrote fs files final) : fs ≤ final := by
  induction h with
  | nothing fs => exact le_rfl
  | build hbuilt _ ih => exact hbuilt.le.trans ih
  | write hwritten _ ih => exact (le_of_writeContent hwritten).trans ih

theorem append {more : List RenderedFile} (h : Wrote fs files fs') (h' : Wrote fs' more final) :
    Wrote fs (files ++ more) final := by
  induction h with
  | nothing _ => exact h'
  | build hbuilt _ ih => exact .build hbuilt (ih h')
  | write hwritten _ ih => exact .write hwritten (ih h')

/-- There is a disk between two files. -/
theorem exists_between {before after : List RenderedFile} (h : Wrote fs (before ++ after) final) :
    ∃ middle, Wrote fs before middle ∧ Wrote middle after final := by
  generalize hfiles : before ++ after = files at h
  induction h generalizing before with
  | nothing fs =>
    obtain ⟨rfl, rfl⟩ := List.append_eq_nil_iff.1 hfiles
    exact ⟨fs, .nothing fs, .nothing fs⟩
  | build hbuilt _ ih =>
    obtain ⟨middle, hbefore, hafter⟩ := ih hfiles
    exact ⟨middle, .build hbuilt hbefore, hafter⟩
  | @write fs _ _ file files hwritten hrest ih =>
    cases before with
    | nil =>
      obtain rfl : after = file :: files := hfiles
      exact ⟨fs, .nothing fs, .write hwritten hrest⟩
    | cons first before =>
      obtain ⟨rfl, htail⟩ := List.cons.inj hfiles
      obtain ⟨middle, hbefore, hafter⟩ := ih htail
      exact ⟨middle, .write hwritten hbefore, hafter⟩

/-- **The last write counts.**  Where a file stands that holds what was planned, there is a file in
the end that holds what was planned for the last of the files that go there. -/
theorem occupant?_eq (h : Wrote fs files final) {place : Place} {first : RenderedFile}
    (hplace : fs.occupant? place = some (.file (.text first.contents))) :
    final.occupant? place = some (.file (.text ((files.filter fun file ↦
      final.place? file.path = some place).getLastD first).contents)) := by
  induction h generalizing first with
  | nothing fs => exact hplace
  | build hbuilt _ ih => exact ih (hbuilt.occupant?_file hplace)
  | @write fs fs' final file files hwritten hrest ih =>
    obtain ⟨there, hput, hlocate⟩ := exists_isPut_of_writeContent hwritten
    have hthere : final.place? file.path = some there := by
      rw [place?, hlocate hrest.le]
      rfl
    by_cases heq : there = place
    · subst heq
      rw [List.filter_cons_of_pos (by simpa using hthere), List.getLastD_cons]
      exact ih hput.occupant?_self
    · have hother : fs'.occupant? place = some (.file (.text first.contents)) := by
        rw [hput.occupant?, if_neg (Ne.symm heq), hplace]
      rw [List.filter_cons_of_neg (by simpa [hthere] using heq)]
      exact ih hother

end Wrote

end FileSystem

/-- The last of the files written after one that goes to the same place, or else that one. -/
def RenderedFile.heir (file : RenderedFile) (final : FileSystem) (after : List RenderedFile) :
    RenderedFile :=
  (after.filter fun other ↦ final.place? other.path = final.place? file.path).getLastD file

theorem RenderedFile.heir_of_path_eq {file other : RenderedFile} (h : other.path = file.path) :
    file.heir final [other] = other := by
  simp [heir, h]

theorem FileSystem.Wrote.readText_eq {file : RenderedFile} {after : List RenderedFile}
    (h : Wrote fs (file :: after) final) :
    final.readText file.path = .ok (file.heir final after).contents := by
  generalize hfiles : file :: after = files at h
  induction h with
  | nothing fs => cases hfiles
  | build _ _ ih => exact ih hfiles
  | @write fs fs' final _ _ hwritten hrest ih =>
    obtain ⟨rfl, rfl⟩ := List.cons.inj hfiles
    obtain ⟨place, hput, hlocate⟩ := exists_isPut_of_writeContent hwritten
    have hplace : final.place? file.path = some place := by
      rw [place?, hlocate hrest.le]
      rfl
    have hcontent := hrest.occupant?_eq hput.occupant?_self
    rw [readText, hlocate hrest.le]
    simp only [hcontent, RenderedFile.heir, hplace]

/-! ## Programs that deliver files -/

/-- From this disk, a program writes these files and reports their paths. -/
structure Delivers (x : StateM FileSystem Report) (fs : FileSystem) (files : List RenderedFile) :
    Prop where
  /-- The files are written in order. -/
  wrote : FileSystem.Wrote fs files (fs.run x).2
  /-- Their paths are reported in order. -/
  written_eq : (fs.run x).1.written = files.map RenderedFile.path

theorem delivers_empty (fs : FileSystem) : Delivers (pure .empty) fs [] :=
  ⟨.nothing fs, rfl⟩

/-- One program after another. -/
theorem Delivers.append {x y : StateM FileSystem Report} {files more : List RenderedFile}
    (hx : Delivers x fs files) (hy : Delivers y (fs.run x).2 more) :
    Delivers (x >>= fun first ↦ y >>= fun rest ↦ pure (first ++ rest)) fs (files ++ more) where
  wrote := hx.wrote.append hy.wrote
  written_eq := by
    rw [List.map_append, ← hx.written_eq, ← hy.written_eq]
    rfl

/-- Diagnostics in front of the report change nothing. -/
theorem Delivers.prepend {x : StateM FileSystem Report} {files : List RenderedFile}
    (hx : Delivers x fs files) (diagnostics : List Diagnostic) :
    Delivers (x >>= fun outcome ↦ pure (⟨[], diagnostics⟩ ++ outcome)) fs files :=
  ⟨hx.wrote, hx.written_eq⟩

theorem RenderedFile.wrote_put (file : RenderedFile) (fs : FileSystem) :
    (fs.run file.put).1 = .ok () ∧ fs.Wrote [file] (fs.run file.put).2 ∨
      (fs.run file.put).1 ≠ .ok () ∧ fs.Wrote [] (fs.run file.put).2 := by
  rw [put, FileSystem.run_bind, run_writeText]
  cases hwritten : fs.writeContent file.path (.text file.contents) with
  | ok fs' => exact .inl ⟨rfl, .write hwritten (.nothing fs')⟩
  | error failure =>
    refine .inr ⟨fun h ↦ ?_, .nothing fs⟩
    cases h

theorem RenderedFile.wrote_write (file : RenderedFile) (fs : FileSystem) :
    (fs.run file.write).1 = .ok () ∧ fs.Wrote [file] (fs.run file.write).2 ∨
      (fs.run file.write).1 ≠ .ok () ∧ fs.Wrote [] (fs.run file.write).2 := by
  rcases file.parent_cases with hnone | ⟨parent, hparent, hp⟩
  · rw [write_eq_put hnone]
    exact file.wrote_put fs
  · have hbuilt := fs.isBuiltOn_makeDirectories parent
    rw [write_eq_bind hparent hp, FileSystem.run_bind, run_makeDirectories]
    cases hmade : (fs.makeDirectories parent).1 with
    | error failure => exact .inr ⟨nofun, .build hbuilt (.nothing _)⟩
    | ok _ =>
      rcases file.wrote_put (fs.makeDirectories parent).2 with ⟨hok, hwrote⟩ | ⟨hfailed, hwrote⟩
      · exact .inl ⟨hok, .build hbuilt hwrote⟩
      · exact .inr ⟨hfailed, .build hbuilt hwrote⟩

/-- As many files are delivered as are reported. -/
theorem delivers_writeFiles (files : List RenderedFile) (fs : FileSystem) :
    Delivers (writeFiles files) fs
      (files.take (fs.run (writeFiles files)).1.written.length) := by
  induction files generalizing fs with
  | nil => exact delivers_empty fs
  | cons file files ih =>
    rcases file.wrote_write fs with ⟨hok, hwrote⟩ | ⟨hfailed, hwrote⟩
    · have hrest := ih (fs.run file.write).2
      have hrun : fs.run (writeFiles (file :: files)) =
          (⟨file.path :: ((fs.run file.write).2.run (writeFiles files)).1.written,
              ((fs.run file.write).2.run (writeFiles files)).1.diagnostics⟩,
            ((fs.run file.write).2.run (writeFiles files)).2) := by
        rw [writeFiles, FileSystem.run_bind, hok]
        rfl
      refine ⟨?_, ?_⟩
      · rw [hrun]
        exact hwrote.append hrest.wrote
      · rw [hrun, List.length_cons, List.take_succ_cons, List.map_cons, ← hrest.written_eq]
    · have hrun : (fs.run (writeFiles (file :: files))).1.written = [] ∧
          (fs.run (writeFiles (file :: files))).2 = (fs.run file.write).2 := by
        rw [writeFiles, FileSystem.run_bind]
        cases hwritten : (fs.run file.write).1 with
        | ok _ => exact absurd hwritten hfailed
        | error failed => exact ⟨rfl, rfl⟩
      refine ⟨?_, ?_⟩
      · rw [hrun.1, hrun.2]
        exact hwrote
      · rw [hrun.1]
        rfl

/-! ## Runs -/

/-- A pass over a type, with the disk on which it begins. -/
structure PassStart where
  /-- The type. -/
  subject : TypeDecl
  /-- The settings of the pass. -/
  options : PassOptions
  /-- The disk. -/
  disk : FileSystem

/-- The files of the plan of a pass that the pass reports as written. -/
def PassStart.delivered (project : Project) (start : PassStart) : List RenderedFile :=
  (project.planOn start.subject start.options start.disk).files.take
    (start.disk.run (project.runPass start.subject start.options)).1.written.length

namespace Project

/-- Passes over a type in order, each on the disk that those before it leave. -/
def passStarts (project : Project) (t : TypeDecl) : FileSystem → List PassOptions → List PassStart
  | _, [] => []
  | fs, options :: more =>
    ⟨t, options, fs⟩ :: project.passStarts t (fs.run (project.runPass t options)).2 more

/-- The passes over types in order, each on the disk that those before it leave. -/
def typeStarts (project : Project) : FileSystem → List TypeDecl → List PassStart
  | _, [] => []
  | fs, t :: types =>
    project.passStarts t fs (passes t) ++
      project.typeStarts (fs.run (project.generateFor t)).2 types

/-- The planned files that a run reports as written, pass by pass. -/
def delivered (project : Project) (fs : FileSystem) : List RenderedFile :=
  (project.typeStarts fs project.catalog.documentedTypes).flatMap (PassStart.delivered project)

variable (project : Project)

theorem delivers_runPass (t : TypeDecl) (options : PassOptions) (fs : FileSystem) :
    Delivers (project.runPass t options) fs (PassStart.delivered project ⟨t, options, fs⟩) := by
  have hfiles := delivers_writeFiles (project.planOn t options fs).files fs
  have hdelivered : PassStart.delivered project ⟨t, options, fs⟩ =
      (project.planOn t options fs).files.take
        (fs.run (writeFiles (project.planOn t options fs).files)).1.written.length := by
    rw [PassStart.delivered, run_runPass]
    rfl
  refine ⟨?_, ?_⟩
  · rw [run_runPass, hdelivered]
    exact hfiles.wrote
  · rw [run_runPass, hdelivered]
    exact hfiles.written_eq

theorem delivers_runPasses (t : TypeDecl) (passes : List PassOptions) (fs : FileSystem) :
    Delivers (project.runPasses t passes) fs
      ((project.passStarts t fs passes).flatMap (PassStart.delivered project)) := by
  induction passes generalizing fs with
  | nil => exact delivers_empty fs
  | cons options more ih =>
    rw [passStarts, List.flatMap_cons]
    exact (project.delivers_runPass t options fs).append (ih _)

theorem delivers_generateEach (types : List TypeDecl) (fs : FileSystem) :
    Delivers (project.generateEach types) fs
      ((project.typeStarts fs types).flatMap (PassStart.delivered project)) := by
  induction types generalizing fs with
  | nil => exact delivers_empty fs
  | cons t types ih =>
    rw [typeStarts, List.flatMap_append]
    exact ((project.delivers_runPasses t (passes t) fs).prepend (skippedAttributes t)).append (ih _)

theorem delivers_generateAll (fs : FileSystem) :
    Delivers project.generateAll fs (project.delivered fs) :=
  project.delivers_generateEach project.catalog.documentedTypes fs

/-- **Nothing is lost but to a later write at the same place.**  After a run, every path that it
reports as written leads to a file, which holds what was planned by the pass that reported it or, if
files that were written later have gone to the same place, what was planned for the last of them. -/
theorem readText_delivered (project : Project) (fs : FileSystem) :
    (project.delivered fs).map RenderedFile.path = (fs.run project.generateAll).1.written ∧
      ∀ before file after, project.delivered fs = before ++ file :: after →
        (fs.run project.generateAll).2.readText file.path =
          .ok (file.heir (fs.run project.generateAll).2 after).contents := by
  have hdelivers := project.delivers_generateAll fs
  refine ⟨hdelivers.written_eq.symm, fun before file after hfiles ↦ ?_⟩
  have hwrote : fs.Wrote (before ++ file :: after) (fs.run project.generateAll).2 :=
    hfiles ▸ hdelivers.wrote
  obtain ⟨middle, -, hafter⟩ := hwrote.exists_between
  exact hafter.readText_eq

end Project

/-! ## A file that is lost -/

/-- The settings of the pass over a namesake. -/
def namesakePass : PassOptions :=
  ⟨.markdown, "docs/", .inline, false⟩

/-- The file of a namesake. -/
def namesakeFile (space summary : String) : RenderedFile where
  path := ⟨"docs/Config.md"⟩
  contents := (rootDocument (namesake space summary) namesakePass []).render .markdown

theorem inlinePage_namesake (space summary : String) :
    namesakes.catalog.inlinePage (namesake space summary) namesakePass =
      ⟨namesake space summary, none, rootDocument (namesake space summary) namesakePass []⟩ := by
  have hproperties : namesakes.catalog.documentedProperties (namesake space summary) = [] := rfl
  rw [Catalog.inlinePage, Catalog.inlineRows, hproperties, Catalog.collectRows_nil]

theorem targetOn_namesakePass (fs : FileSystem) :
    namesakes.targetOn namesakePass fs = .directory ⟨"docs/"⟩ := by
  have hslash : Path.endsWithSlash ⟨"docs/"⟩ = true := by decide
  have hjoin : OutputTarget.requestedPath "docs/" ⟨""⟩ = ⟨"docs/"⟩ := by decide
  show OutputTarget.ofRequest "docs/" ⟨""⟩ _ = _
  rw [OutputTarget.ofRequest, hslash, hjoin]
  rfl

theorem files_planOn_namesake (space summary : String) (fs : FileSystem) :
    (namesakes.planOn (namesake space summary) namesakePass fs).files =
      [namesakeFile space summary] := by
  have hname : (⟨"docs/"⟩ : Path).join ⟨(Ledger.empty.claim "Config" ".md").1⟩ =
    ⟨"docs/Config.md"⟩ := by decide
  have hbase : Catalog.baseFileName (namesake space summary) namesakePass.includeNamespaces =
    "Config" := rfl
  rw [Project.planOn, targetOn_namesakePass, namesakeFile, ← hname, ← hbase]
  show Project.renderPages _ _ .empty [namesakes.catalog.inlinePage _ _] = _
  rw [inlinePage_namesake]
  rfl

/-- Both files are written, and they go by the same path. -/
theorem delivered_namesakes :
    namesakes.delivered .empty =
      [namesakeFile "Client" "How to call.", namesakeFile "Server" "How to answer."] := by
  have htypes : namesakes.catalog.documentedTypes =
    [namesake "Client" "How to call.", namesake "Server" "How to answer."] := by decide
  have hpasses (space summary : String) :
    Project.passes (namesake space summary) = [namesakePass] := rfl
  have hlength : (namesakes.delivered .empty).length = 2 := by decide +kernel
  obtain ⟨first, second, hfiles⟩ : ∃ first second, namesakes.delivered .empty =
      [namesakeFile "Client" "How to call."].take first ++
        [namesakeFile "Server" "How to answer."].take second := by
    rw [Project.delivered, htypes]
    simp only [Project.typeStarts, Project.passStarts, hpasses, List.flatMap_append,
      List.flatMap_cons, List.flatMap_nil, List.append_nil, PassStart.delivered,
      files_planOn_namesake]
    exact ⟨_, _, rfl⟩
  rw [hfiles] at hlength ⊢
  cases first <;> cases second <;> simp_all

/-- Of two types that share their simple name, the first one loses its file to the second. -/
theorem Project.readText_delivered_namesakes :
    ∃ file ∈ namesakes.delivered .empty,
      (FileSystem.empty.run namesakes.generateAll).2.readText file.path ≠ .ok file.contents := by
  have hne : (namesakeFile "Server" "How to answer.").contents ≠
    (namesakeFile "Client" "How to call.").contents := by decide +kernel
  have hpath : (namesakeFile "Server" "How to answer.").path =
    (namesakeFile "Client" "How to call.").path := rfl
  have hread := (delivered_namesakes ▸ (namesakes.delivers_generateAll .empty).wrote).readText_eq
  refine ⟨namesakeFile "Client" "How to call.", ?_, ?_⟩
  · rw [delivered_namesakes]
    exact List.mem_cons_self
  · rw [hread, RenderedFile.heir_of_path_eq hpath]
    exact fun heq ↦ hne (Except.ok.inj heq)

end ConfigDocs
