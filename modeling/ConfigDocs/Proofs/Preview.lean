import Mathlib.Data.List.Basic
import ConfigDocs.Command.Run
import ConfigDocs.Proofs.PassOutcomes

/-!
# What a preview shows

A preview is meant to show what would be written without writing it.  What would be written is found
out in a *rehearsal*: the writing command is run against a disk on which every write succeeds and
leaves nothing behind, so that each of its passes is planned from the same files, and the files that
were to be written are taken from its calls.

Both commands load their input in the same way, and a program that only reads does the same on a
file system as in a rehearsal (`Reads`).  What is left is a comparison of plans.  They differ in one
thing: a preview takes no notice of the directory of the project that the settings may name.  So
both commands fail alike, and where this directory makes no difference to the paths that are asked
for, a preview shows what would be written (`Command.preview_showsGenerate`); on `siteDisk` it
depends on the path.
-/

set_option autoImplicit false

namespace ConfigDocs

/-! ## Rehearsals -/

/-- A disk that stays as it is: questions are answered from a file system, and writes are accepted
and forgotten. -/
def FileSystem.rehearsal (fs : FileSystem) : Oracle := fun _ call ↦
  match call with
  | .isDirectory p => fs.isDirectory p
  | .isFile p => fs.isFile p
  | .canonical? p => fs.canonical? p
  | .readText p => fs.readText p
  | .makeDirectories _ => (.ok () : Except Failure Unit)
  | .writeText _ _ => (.ok () : Except Failure Unit)

/-- The file that a call writes. -/
def Call.file? : Call → Option RenderedFile
  | writeText path contents => some ⟨path, contents⟩
  | _ => none

/-- The files that are written by calls, in order. -/
def Call.files (calls : List Call) : List RenderedFile :=
  calls.filterMap Call.file?

theorem Call.files_append (calls more : List Call) :
    files (calls ++ more) = files calls ++ files more :=
  List.filterMap_append

/-- The files that a command would write. -/
def Command.rehearse (command : Command) (fs : FileSystem) : List RenderedFile :=
  Call.files (fs.rehearsal.run [] command.run).2

/-! ## Programs that only read -/

variable {α β : Type} {fs : FileSystem} {past : List Call}

/-- From this file system, a program changes nothing, and in a rehearsal it does the same. -/
structure Reads (fs : FileSystem) (x : StateM FileSystem α) (y : Observed α) : Prop where
  /-- Nothing is changed. -/
  unchanged : (fs.run x).2 = fs
  /-- The result is the same. -/
  agrees : ∀ past, (fs.rehearsal.run past y).1 = (fs.run x).1
  /-- Nothing is written. -/
  files_eq : ∀ past, Call.files (fs.rehearsal.run past y).2 = []

namespace Reads

protected theorem pure (a : α) : Reads fs (pure a) (pure a) :=
  ⟨rfl, fun _ ↦ rfl, fun _ ↦ rfl⟩

protected theorem bind {x : StateM FileSystem α} {y : Observed α} {f : α → StateM FileSystem β}
    {g : α → Observed β} (h : Reads fs x y) (h' : ∀ a, Reads fs (f a) (g a)) :
    Reads fs (x >>= f) (y >>= g) where
  unchanged := by
    rw [FileSystem.run_bind, h.unchanged]
    exact (h' _).unchanged
  agrees past := by
    rw [FileSystem.run_bind, h.unchanged, Oracle.run_bind, h.agrees]
    exact (h' _).agrees _
  files_eq past := by
    rw [Oracle.run_bind, Call.files_append, h.files_eq, h.agrees, (h' _).files_eq, List.append_nil]

/-- A program goes on after reading. -/
theorem run_bind {x : StateM FileSystem α} {y : Observed α} (h : Reads fs x y)
    (f : α → StateM FileSystem β) : fs.run (x >>= f) = fs.run (f (fs.run x).1) := by
  rw [FileSystem.run_bind, h.unchanged]

/-- A rehearsal goes on after reading. -/
theorem files_bind {x : StateM FileSystem α} {y : Observed α} (h : Reads fs x y)
    (g : α → Observed β) (past : List Call) :
    ∃ past', Call.files (fs.rehearsal.run past (y >>= g)).2 =
      Call.files (fs.rehearsal.run past' (g (fs.run x).1)).2 := by
  refine ⟨past ++ (fs.rehearsal.run past y).2, ?_⟩
  rw [Oracle.run_bind, Call.files_append, h.files_eq, h.agrees, List.nil_append]

end Reads

theorem reads_isFile (p : Path) : Reads fs (Disk.isFile p) (Disk.isFile p) :=
  ⟨rfl, fun _ ↦ rfl, fun _ ↦ rfl⟩

theorem reads_loadText (p : Path) : Reads fs (loadText p) (loadText p) :=
  .bind ⟨rfl, fun _ ↦ rfl, fun _ ↦ rfl⟩ fun _ ↦ .pure _

theorem reads_locationOf (p : Path) : Reads fs (locationOf p) (locationOf p) :=
  .bind ⟨rfl, fun _ ↦ rfl, fun _ ↦ rfl⟩ fun _ ↦ .pure _

/-- A text is read and then taken for something, where only its location matters besides. -/
theorem reads_textAs (p : Path) (f : String → String → Except Error α) :
    Reads fs (loadText p >>= fun
        | .error error => pure (.error error)
        | .ok text => locationOf p >>= fun location ↦ pure (f text location))
      (loadText p >>= fun
        | .error error => pure (.error error)
        | .ok text => locationOf p >>= fun location ↦ pure (f text location)) := by
  refine (reads_loadText p).bind fun text ↦ ?_
  cases text with
  | error error => exact .pure _
  | ok text => exact (reads_locationOf p).bind fun _ ↦ .pure _

theorem ModelFile.reads_load (p : Path) : Reads fs (ModelFile.load p) (ModelFile.load p) :=
  reads_textAs p (ModelFile.parse (.ofPath p))

theorem Settings.reads_load (p : Path) : Reads fs (Settings.load p) (Settings.load p) :=
  reads_textAs p fun text location ↦ (Settings.parse text location).map (·.relativeToFile p)

theorem ModelFile.reads_loadEach (paths : List Path) :
    Reads fs (ModelFile.loadEach paths) (ModelFile.loadEach paths) := by
  induction paths with
  | nil => exact .pure _
  | cons p paths ih =>
    refine (reads_load p).bind fun file ↦ ?_
    cases file with
    | error error => exact .pure _
    | ok file => exact ih.bind fun _ ↦ .pure _

namespace Command

theorem reads_loadSettings (p : Option Path) : Reads fs (loadSettings p) (loadSettings p) := by
  cases p with
  | some p => exact Settings.reads_load p
  | none =>
    refine (reads_isFile _).bind fun isThere ↦ ?_
    cases isThere with
    | true => exact Settings.reads_load _
    | false => exact .pure _

theorem reads_loadCatalog (input : Input) (settings : Settings) :
    Reads fs (loadCatalog input settings) (loadCatalog input settings) := by
  unfold loadCatalog
  generalize (if input.models.isEmpty then settings.models else input.models) = models
  dsimp only
  split
  · exact .pure _
  · exact ((ModelFile.reads_loadEach _).bind fun _ ↦ .pure _).bind fun _ ↦ .pure _

/-- **Loading only reads.** -/
theorem reads_loadInput (input : Input) : Reads fs (loadInput input) (loadInput input) := by
  refine (reads_loadSettings input.settings).bind fun settings ↦ ?_
  cases settings with
  | error error => exact .pure _
  | ok settings => exact (reads_loadCatalog input settings).bind fun _ ↦ .pure _

end Command

/-! ## Plans -/

theorem RenderedFile.files_calls (file : RenderedFile) : Call.files file.calls = [file] := by
  rw [calls, Call.files_append]
  cases file.path.parent? with
  | none => rfl
  | some parent =>
    dsimp only
    split <;> rfl

theorem RenderedFile.accepts_calls (file : RenderedFile) :
    fs.rehearsal.Accepts past file.calls := by
  have hwrite : ∀ past, fs.rehearsal.Accepts past [.writeText file.path file.contents] :=
    fun _ ↦ Oracle.accepts_singleton.2 rfl
  rw [calls, Oracle.accepts_append]
  refine ⟨?_, hwrite _⟩
  cases file.path.parent? with
  | none => trivial
  | some parent =>
    dsimp only
    split
    · trivial
    · exact Oracle.accepts_singleton.2 rfl

theorem files_flatMap_calls (files : List RenderedFile) :
    Call.files (files.flatMap RenderedFile.calls) = files := by
  induction files with
  | nil => rfl
  | cons file files ih =>
    rw [List.flatMap_cons, Call.files_append, file.files_calls, ih, List.singleton_append]

/-- All files are written in a rehearsal. -/
theorem files_writeFiles (files : List RenderedFile) :
    Call.files (fs.rehearsal.run past (writeFiles files)).2 = files := by
  obtain ⟨writing, hwrites, hrun⟩ := exists_writes fs.rehearsal past files
  rw [hrun]
  cases hwrites with
  | complete _ _ => exact files_flatMap_calls files
  | broken done file rest made failed _ hbreaks =>
    exact absurd file.accepts_calls hbreaks.not_accepts

/-- Nothing is written to find a target. -/
theorem OutputTarget.files_questions (requested : String) (projectDirectory : Path) :
    Call.files (questions requested projectDirectory) = [] := by
  rw [questions]
  split <;> rfl

namespace Project

variable (project : Project) (t : TypeDecl)

theorem files_runPass (options : PassOptions) (past : List Call) :
    Call.files (fs.rehearsal.run past (project.runPass t options)).2 =
      (project.planOn t options fs).files := by
  rw [runPass, Oracle.run_bind, Call.files_append, oracle_run_plan, Oracle.run_bind_pure,
    OutputTarget.files_questions, List.nil_append, files_writeFiles]
  rfl

/-- In a rehearsal every pass is planned from the same file system. -/
theorem files_runPasses (passes : List PassOptions) (past : List Call) :
    Call.files (fs.rehearsal.run past (project.runPasses t passes)).2 =
      passes.flatMap fun options ↦ (project.planOn t options fs).files := by
  induction passes generalizing past with
  | nil => rfl
  | cons options more ih =>
    rw [runPasses, Oracle.run_bind, Call.files_append, Oracle.run_bind_pure, files_runPass, ih,
      List.flatMap_cons]

theorem files_generateFor (past : List Call) :
    Call.files (fs.rehearsal.run past (project.generateFor t)).2 =
      (passes t).flatMap fun options ↦ (project.planOn t options fs).files := by
  rw [generateFor, Oracle.run_bind_pure, files_runPasses]

/-- In a preview every pass is planned from the same file system. -/
theorem run_planEach (passes : List PassOptions) :
    fs.run (project.planEach t passes) =
      (passes.map fun options ↦ project.planOn t options fs, fs) := by
  induction passes with
  | nil => rfl
  | cons options more ih =>
    rw [planEach, FileSystem.run_bind, run_plan, FileSystem.run_bind, ih]
    rfl

end Project

/-! ## Commands -/

/-- The directory of the project that the settings name makes no difference to the paths for which
the passes over a type ask: there is none, or it is empty, or these paths are absolute. -/
def Settings.Spares (settings : Settings) (t : TypeDecl) : Prop :=
  ∀ options ∈ Project.passes t,
    OutputTarget.requestedPath options.outputPath (settings.projectDirectory.getD ⟨""⟩) =
      OutputTarget.requestedPath options.outputPath ⟨""⟩

instance (settings : Settings) (t : TypeDecl) : Decidable (settings.Spares t) :=
  inferInstanceAs (Decidable (∀ options ∈ Project.passes t, _ = _))

theorem Settings.Spares.files_planOn_eq {settings : Settings} {t : TypeDecl} (h : settings.Spares t)
    (catalog : Catalog) {options : PassOptions} (hoptions : options ∈ Project.passes t) :
    ((Command.projectOf settings catalog none none).planOn t options fs).files =
      (Project.planOn { catalog } t options fs).files := by
  have htarget : (Command.projectOf settings catalog none none).targetOn options fs =
      Project.targetOn { catalog } options fs := by
    simp only [Project.targetOn, OutputTarget.ofRequest, Command.projectOf, Option.none_or,
      h options hoptions]
  rw [Project.planOn, htarget]
  rfl

namespace Command

theorem run_previewOf {project : Project} {name : String} {t : TypeDecl}
    (h : project.find name = .ok t) :
    fs.run (previewOf project name) =
      (.ok (previewLines t ((Project.passes t).map fun options ↦ project.planOn t options fs)),
        fs) := by
  rw [previewOf, h]
  dsimp only
  rw [FileSystem.run_bind, Project.preview, Project.run_planEach]
  rfl

theorem files_generateReport {project : Project} {name : String} {t : TypeDecl}
    (h : project.find name = .ok t) (past : List Call) :
    Call.files (fs.rehearsal.run past (generateReport project (some name))).2 =
      (Project.passes t).flatMap fun options ↦ (project.planOn t options fs).files := by
  rw [generateReport, Project.generateType, h]
  dsimp only
  rw [Oracle.run_bind_pure, Project.files_generateFor]

/-- What a preview of a type is to show: the files that generating the type would write. -/
structure ShowsGenerate (fs : FileSystem) (input : Input) (name : String) : Prop where
  /-- A preview changes nothing. -/
  unchanged : (fs.run (preview input name).run).2 = fs
  /-- Either command fails if the other one does, with the same error. -/
  failed_iff : ∀ error, (fs.run (preview input name).run).1 = .error error ↔
    (fs.run (generate input none none (some name)).run).1 = .error error
  /-- A preview that does not fail shows the files in order, and counts them. -/
  shown : ∀ lines, (fs.run (preview input name).run).1 = .ok lines →
    ∃ diagnostics, lines =
      ((generate input none none (some name)).rehearse fs).flatMap fileLines ++
        [tally "Previewed" ((generate input none none (some name)).rehearse fs).length diagnostics]

/-- **Both commands end alike.**  Either they fail with the same error, or both find the same type,
and each plans the passes over it from the file system, in a project of its own. -/
theorem preview_generate_cases (fs : FileSystem) (input : Input) (name : String) :
    (∃ error, fs.run (preview input name).run = (.error error, fs) ∧
      (fs.run (generate input none none (some name)).run).1 = .error error) ∨
    ∃ settings catalog t output, (fs.run (loadInput input)).1 = .ok (settings, catalog) ∧
      Project.find { catalog } name = .ok t ∧
      fs.run (preview input name).run =
        (.ok (previewLines t ((Project.passes t).map fun options ↦
          Project.planOn { catalog } t options fs)), fs) ∧
      (fs.run (generate input none none (some name)).run).1 = .ok output ∧
      (generate input none none (some name)).rehearse fs =
        (Project.passes t).flatMap fun options ↦
          ((projectOf settings catalog none none).planOn t options fs).files := by
  -- Either command goes on, from the same file system, with what was loaded.
  have hreads : Reads fs (loadInput input) (loadInput input) := reads_loadInput input
  have hpreview : fs.run (preview input name).run = fs.run _ := hreads.run_bind _
  have hgenerate : fs.run (generate input none none (some name)).run = fs.run _ :=
    hreads.run_bind _
  obtain ⟨past, hfiles⟩ : ∃ past, (generate input none none (some name)).rehearse fs =
    Call.files (fs.rehearsal.run past _).2 := hreads.files_bind _ []
  rcases hloaded : (fs.run (loadInput input)).1 with error | ⟨settings, catalog⟩
  · rw [hloaded] at hpreview hgenerate
    exact .inl ⟨error, hpreview, congrArg Prod.fst hgenerate⟩
  · rw [hloaded] at hpreview hgenerate hfiles
    dsimp only at hpreview hgenerate hfiles
    have hfound : (projectOf settings catalog none none).find name =
      Project.find { catalog } name := rfl
    rw [generateReport, Project.generateType, hfound] at hgenerate
    cases hfind : Project.find { catalog } name with
    | error error =>
      rw [previewOf, hfind] at hpreview
      rw [hfind] at hgenerate
      exact .inl ⟨error, hpreview, congrArg Prod.fst hgenerate⟩
    | ok t =>
      rw [run_previewOf hfind] at hpreview
      rw [hfind] at hgenerate
      rw [Oracle.run_bind_pure, files_generateReport (hfound.trans hfind)] at hfiles
      exact .inr ⟨settings, catalog, t, _, rfl, hfind, hpreview, congrArg Prod.fst hgenerate,
        hfiles⟩

theorem run_preview_snd (fs : FileSystem) (input : Input) (name : String) :
    (fs.run (preview input name).run).2 = fs := by
  rcases preview_generate_cases fs input name with
    ⟨_, hpreview, -⟩ | ⟨_, _, _, _, -, -, hpreview, -⟩
  all_goals rw [hpreview]

theorem preview_eq_error_iff (fs : FileSystem) (input : Input) (name : String) (error : Error) :
    (fs.run (preview input name).run).1 = .error error ↔
      (fs.run (generate input none none (some name)).run).1 = .error error := by
  rcases preview_generate_cases fs input name with
    ⟨_, hpreview, hgenerate⟩ | ⟨_, _, _, _, -, -, hpreview, hgenerate, -⟩
  · rw [hpreview, hgenerate]
  · rw [hpreview, hgenerate]
    exact iff_of_false nofun nofun

/-- **A preview shows what would be written**, unless the settings name a directory of the project
that makes a difference to the paths that are asked for; and it always fails as generating the type
does. -/
theorem preview_showsGenerate (fs : FileSystem) (input : Input) (name : String) :
    (∀ error, (fs.run (preview input name).run).1 = .error error ↔
      (fs.run (generate input none none (some name)).run).1 = .error error) ∧
    ((∀ settings catalog t, (fs.run (loadInput input)).1 = .ok (settings, catalog) →
      Project.find { catalog } name = .ok t → settings.Spares t) →
        ShowsGenerate fs input name) := by
  have hfailed := preview_eq_error_iff fs input name
  refine ⟨hfailed, fun h ↦ ⟨run_preview_snd fs input name, hfailed, fun lines hlines ↦ ?_⟩⟩
  rcases preview_generate_cases fs input name with
    ⟨_, hpreview, -⟩ | ⟨settings, catalog, t, _, hloaded, hfind, hpreview, -, hfiles⟩
  · rw [hpreview] at hlines
    cases hlines
  · have hspares := h settings catalog t hloaded hfind
    rw [List.flatMap_congr fun _ hoptions ↦ hspares.files_planOn_eq catalog hoptions] at hfiles
    rw [hpreview] at hlines
    obtain rfl := Except.ok.inj hlines
    rw [hfiles, previewLines, List.flatMap_map]
    exact ⟨_, rfl⟩

end Command

/-! ## Settings that name a directory of the project -/

/-- A file that declares one type, which asks for a table at this path. -/
def siteModel (output : String) : String :=
  "[[types]]\nname = \"Config\"\n" ++
    "[[types.attributes]]\nname = \"Documentation\"\narguments = [1, \"" ++ output ++ "\"]\n"

/-- Settings that name that file, and a directory of the project. -/
def siteSettings : String :=
  "project_dir = \"site\"\nmodels = [\"model.toml\"]\n"

/-- A disk with such files. -/
def siteDisk (output : String) : FileSystem :=
  (FileSystem.empty.put "model.toml" [] (.file (.text (siteModel output))) rfl nofun).put
    "confdoc.toml" [] (.file (.text siteSettings)) rfl nofun

/-- The input of a command without options. -/
def siteInput : Input :=
  ⟨[], none⟩

namespace Command

/-- An absolute path is not changed by the directory of the project, so the preview is right. -/
theorem preview_showsGenerate_siteDisk :
    (∀ settings catalog t,
      ((siteDisk "/out/").run (loadInput siteInput)).1 = .ok (settings, catalog) →
        Project.find { catalog } "Config" = .ok t → settings.Spares t) ∧
      ((generate siteInput none none (some "Config")).rehearse (siteDisk "/out/")).map
        RenderedFile.path = [⟨"/out/Config.md"⟩] ∧
      ShowsGenerate (siteDisk "/out/") siteInput "Config" := by
  have hchecked : ∀ loaded ∈ ((siteDisk "/out/").run (loadInput siteInput)).1.toOption,
      ∀ t ∈ (Project.find { catalog := loaded.2 } "Config").toOption, loaded.1.Spares t := by
    decide +kernel
  have hspares : ∀ settings catalog t,
      ((siteDisk "/out/").run (loadInput siteInput)).1 = .ok (settings, catalog) →
        Project.find { catalog } "Config" = .ok t → settings.Spares t := by
    intro settings catalog t hloaded hfind
    exact hchecked (settings, catalog) (by rw [hloaded]; rfl) t (by rw [hfind]; rfl)
  exact ⟨hspares, by decide +kernel, (preview_showsGenerate _ _ _).2 hspares⟩

/-- A preview does not show where a relative path leads from the directory of the project. -/
theorem not_showsGenerate_siteDisk : ¬ShowsGenerate (siteDisk "out/") siteInput "Config" := by
  have hpreview : ((siteDisk "out/").run (preview siteInput "Config").run).1.toOption.map
    List.head? = some (some "==> out/Config.md <==") := by decide +kernel
  have hgenerate : ((generate siteInput none none (some "Config")).rehearse
    (siteDisk "out/")).map RenderedFile.path = [⟨"site/out/Config.md"⟩] := by decide +kernel
  intro h
  cases hlines : ((siteDisk "out/").run (preview siteInput "Config").run).1 with
  | error error =>
    rw [hlines] at hpreview
    cases hpreview
  | ok lines =>
    obtain ⟨file, hfiles, hpath⟩ := List.map_eq_singleton_iff.1 hgenerate
    obtain ⟨diagnostics, rfl⟩ := h.shown lines hlines
    rw [hlines, hfiles] at hpreview
    have hline : "==> " ++ file.path.text ++ " <==" = "==> out/Config.md <==" :=
      Option.some.inj (Option.some.inj hpreview)
    rw [hpath] at hline
    exact absurd hline (by decide)

end Command

end ConfigDocs
