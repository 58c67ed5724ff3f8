import ConfigDocs.Proofs.Observation
import ConfigDocs.Proofs.Replay

/-!
# What a run reports, whatever the disk does

A file is written by one or two calls, and a pass makes the calls of its planned files in order.  As
soon as one of them fails the pass is over: this is all that a failure does (`Oracle.Writes`).  The
next pass finds its own target, with a question if the request leaves it open, and begins with its
whole plan.  So what has happened to a pass is known from the target it found and from how its
writing ended (`PassOutcome`), and the report of a run is put together from the outcomes of its
passes.

The main statement, `Project.generateAll_isRun`, spells this out for every oracle, that is, for
every outcome of every call: which diagnostics a pass has and in which order, which paths it reports
as written, which calls it makes, and that no attribute that asks for documentation is passed over
in silence.
-/

set_option autoImplicit false

namespace ConfigDocs

/-! ## Writing files -/

variable {oracle : Oracle} {past : List Call}

/-- The calls that it takes to write a file: one for the directories on the way to it, unless there
are none, and one for the file. -/
def RenderedFile.calls (file : RenderedFile) : List Call :=
  (match file.path.parent? with
    | none => []
    | some parent => if parent.text.isEmpty then [] else [.makeDirectories parent]) ++
  [.writeText file.path file.contents]

theorem RenderedFile.attempts_write (file : RenderedFile) :
    oracle.Attempts past file.calls (oracle.run past file.write) := by
  have hstore : ∀ past, oracle.Attempts past [.writeText file.path file.contents]
      (oracle.run past do
        let written ← Disk.writeText file.path file.contents
        pure (written.mapError fun failure ↦ (file.path, failure))) :=
    fun _ ↦ Oracle.attempts_singleton rfl rfl
  rw [calls, write]
  cases file.path.parent? with
  | none => exact Oracle.attempts_nil.andThen (hstore _)
  | some parent =>
    dsimp only
    split
    · exact Oracle.attempts_nil.andThen (hstore _)
    · rw [← bind_assoc]
      exact (Oracle.attempts_singleton rfl rfl).andThen (hstore _)

/-- How the writing of files has ended. -/
structure Writing where
  /-- The files that were written. -/
  done : List RenderedFile
  /-- The files that were not, from the one that failed on. -/
  left : List RenderedFile
  /-- What has failed. -/
  failed : Option (Path × Failure)
  /-- The calls that were made. -/
  calls : List Call

/-- The report of the writing. -/
def Writing.report (writing : Writing) : Report where
  written := writing.done.map RenderedFile.path
  diagnostics := writing.failed.toList.map fun failed ↦ .writeFailed failed.1 failed.2

/-- The ways in which the writing of files may end. -/
inductive Oracle.Writes (oracle : Oracle) (past : List Call) : List RenderedFile → Writing → Prop
  /-- No call fails, and all files are written. -/
  | complete (files : List RenderedFile)
      (haccepts : oracle.Accepts past (files.flatMap RenderedFile.calls)) :
      Writes oracle past files ⟨files, [], none, files.flatMap RenderedFile.calls⟩
  /-- A call fails, after which none is made. -/
  | broken (done : List RenderedFile) (file : RenderedFile) (rest : List RenderedFile)
      (made : List Call) (failed : Path × Failure)
      (haccepts : oracle.Accepts past (done.flatMap RenderedFile.calls))
      (hbreaks : oracle.Breaks (past ++ done.flatMap RenderedFile.calls) file.calls made failed) :
      Writes oracle past (done ++ file :: rest)
        ⟨done, file :: rest, some failed, done.flatMap RenderedFile.calls ++ made⟩

/-- One more file before the others. -/
theorem Oracle.Writes.cons {file : RenderedFile} {files : List RenderedFile} {writing : Writing}
    (hfile : oracle.Accepts past file.calls)
    (h : oracle.Writes (past ++ file.calls) files writing) :
    oracle.Writes past (file :: files)
      ⟨file :: writing.done, writing.left, writing.failed, file.calls ++ writing.calls⟩ := by
  cases h with
  | complete _ haccepts =>
    exact .complete (file :: files) (accepts_append.2 ⟨hfile, haccepts⟩)
  | broken done failing rest made failed haccepts hbreaks =>
    rw [← List.append_assoc]
    refine .broken (file :: done) failing rest made failed ?_ ?_
    · exact accepts_append.2 ⟨hfile, haccepts⟩
    · rwa [List.append_assoc] at hbreaks

theorem exists_writes (oracle : Oracle) (past : List Call) (files : List RenderedFile) :
    ∃ writing, oracle.Writes past files writing ∧
      oracle.run past (writeFiles files) = (writing.report, writing.calls) := by
  induction files generalizing past with
  | nil => exact ⟨_, .complete [] trivial, rfl⟩
  | cons file files ih =>
    rw [writeFiles, Oracle.run_bind]
    rcases file.attempts_write with ⟨haccepts, hrun⟩ | ⟨made, failed, hbreaks, hrun⟩
    · obtain ⟨writing, hwrites, hrest⟩ := ih (past ++ file.calls)
      refine ⟨_, hwrites.cons haccepts, ?_⟩
      rw [hrun]
      dsimp only
      rw [Oracle.run_bind, hrest]
      simp only [Oracle.run_pure, List.append_nil]
      rfl
    · refine ⟨_, .broken [] file files made failed trivial ?_, ?_⟩
      · rwa [List.flatMap_nil, List.append_nil]
      · rw [hrun]
        exact Prod.ext rfl (List.append_nil made)

/-! ## Passes -/

namespace OutputTarget

variable (requested : String) (projectDirectory : Path)

/-- The question that it takes to find the target of a request, if the request leaves it open. -/
def questions : List Call :=
  if namesDirectory requested projectDirectory then []
  else [.isDirectory (requestedPath requested projectDirectory)]

/-- The target of a request, as the oracle has it. -/
theorem oracle_run_resolve :
    oracle.run past (resolve requested projectDirectory) =
      (ofRequest requested projectDirectory
        (oracle past (.isDirectory (requestedPath requested projectDirectory))),
        questions requested projectDirectory) := by
  cases hnames : namesDirectory requested projectDirectory with
  | true =>
    rw [resolve_of_namesDirectory hnames, questions, hnames]
    rfl
  | false =>
    rw [resolve_of_namesDirectory_eq_false hnames, questions, hnames]
    rfl

end OutputTarget

/-- What has happened to a pass. -/
structure PassOutcome where
  /-- The type that the pass was over. -/
  subject : TypeDecl
  /-- The settings of the pass. -/
  options : PassOptions
  /-- The target that the pass has found. -/
  target : OutputTarget
  /-- How its writing has ended. -/
  writing : Writing

namespace PassOutcome

variable (project : Project) (outcome : PassOutcome)

/-- Where the request of the pass leads. -/
def requested : Path :=
  OutputTarget.requestedPath outcome.options.outputPath project.directory

/-- The files that the pass was to write, in order. -/
def planned : List RenderedFile :=
  project.filesFor outcome.subject outcome.options outcome.target

/-- The question of the pass about its target, if there is one. -/
def questions : List Call :=
  OutputTarget.questions outcome.options.outputPath project.directory

/-- The calls of the pass: at most one question about its target, and then the writing. -/
def calls : List Call :=
  outcome.questions project ++ outcome.writing.calls

/-- The report of the pass. -/
def report : Report where
  written := outcome.writing.done.map RenderedFile.path
  diagnostics :=
    (.passBegins outcome.subject.fullName project.name outcome.options ::
      (Project.targetWarnings outcome.target outcome.options ++
        (outcome.planned project).map fun file ↦ .fileResolved file.path)) ++
    outcome.writing.failed.toList.map fun failed ↦ .writeFailed failed.1 failed.2

/-- The codes of the diagnostics of the pass. -/
def codes : List String :=
  ["CDG000"] ++
  (match outcome.options.layout, outcome.target with
    | .separate, .file _ => ["CDG002"]
    | _, _ => []) ++
  List.replicate (outcome.planned project).length "CDG000" ++
  (if outcome.writing.failed.isSome then ["CDG001"] else [])

theorem map_code_report :
    (outcome.report project).diagnostics.map Diagnostic.code = outcome.codes project := by
  have hwarnings : (Project.targetWarnings outcome.target outcome.options).map Diagnostic.code =
      match outcome.options.layout, outcome.target with
      | .separate, .file _ => ["CDG002"]
      | _, _ => [] := by
    unfold Project.targetWarnings
    cases outcome.target <;> cases outcome.options.layout <;> rfl
  have hresolved : ((outcome.planned project).map fun file ↦
      Diagnostic.fileResolved file.path).map Diagnostic.code =
        List.replicate (outcome.planned project).length "CDG000" := by
    rw [List.map_map]
    exact List.map_const' ..
  have hfailed : (outcome.writing.failed.toList.map fun failed ↦
      Diagnostic.writeFailed failed.1 failed.2).map Diagnostic.code =
        if outcome.writing.failed.isSome then ["CDG001"] else [] := by
    cases outcome.writing.failed <;> rfl
  rw [report, codes, List.map_append, List.map_cons, List.map_append, hwarnings, hresolved, hfailed]
  rfl

theorem mem_codes {code : String} (h : code ∈ outcome.codes project) :
    code = "CDG000" ∨ code = "CDG002" ∨ code = "CDG001" ∧ outcome.writing.failed.isSome := by
  simp only [codes, List.mem_append, List.mem_singleton] at h
  rcases h with ((h | h) | h) | h
  · exact .inl h
  · split at h
    · exact .inr (.inl (List.mem_singleton.1 h))
    · cases h
  · exact .inl (List.eq_of_mem_replicate h)
  · split at h
    · rename_i hfailed
      exact .inr (.inr ⟨List.mem_singleton.1 h, hfailed⟩)
    · cases h

end PassOutcome

/-- A pass, begun after the calls in `past`, has this outcome. -/
structure Project.IsOutcome (project : Project) (oracle : Oracle) (past : List Call)
    (outcome : PassOutcome) : Prop where
  /-- The target is what the request asks for.  An answer has a part in it only if the request
  leaves it open, and then there is the question. -/
  target_eq : outcome.target = .ofRequest outcome.options.outputPath project.directory
    (oracle past (.isDirectory (outcome.requested project)))
  /-- All of the plan is written, up to the first failure. -/
  writes : oracle.Writes (past ++ outcome.questions project) (outcome.planned project)
    outcome.writing
  /-- The diagnostics in order. -/
  codes_eq : (outcome.report project).diagnostics.map Diagnostic.code = outcome.codes project
  /-- Either all of the plan is reported as written, or a failure is reported. -/
  written_iff : (outcome.report project).written = (outcome.planned project).map RenderedFile.path ↔
    "CDG001" ∉ (outcome.report project).diagnostics.map Diagnostic.code

namespace Project

variable (project : Project)

theorem isOutcome_of_writes {outcome : PassOutcome}
    (htarget : outcome.target = .ofRequest outcome.options.outputPath project.directory
      (oracle past (.isDirectory (outcome.requested project))))
    (h : oracle.Writes (past ++ outcome.questions project) (outcome.planned project)
      outcome.writing) :
    project.IsOutcome oracle past outcome where
  target_eq := htarget
  writes := h
  codes_eq := outcome.map_code_report project
  written_iff := by
    rw [outcome.map_code_report project]
    show outcome.writing.done.map RenderedFile.path = _ ↔ _
    generalize hwriting : outcome.writing = writing at h
    generalize outcome.planned project = files at h
    cases h with
    | complete _ _ =>
      refine iff_of_true rfl fun hmem ↦ ?_
      rcases outcome.mem_codes project hmem with h | h | ⟨-, h⟩
      · exact absurd h (by decide)
      · exact absurd h (by decide)
      · simp [hwriting] at h
    | broken done file rest made failed _ _ =>
      refine iff_of_false (fun heq ↦ ?_) fun hnot ↦ hnot ?_
      · simpa using congrArg List.length heq
      · simp [PassOutcome.codes, hwriting]

theorem oracle_run_plan (t : TypeDecl) (options : PassOptions) :
    oracle.run past (project.plan t options) =
      (project.planFor t options (.ofRequest options.outputPath project.directory
        (oracle past (.isDirectory
          (OutputTarget.requestedPath options.outputPath project.directory)))),
        OutputTarget.questions options.outputPath project.directory) := by
  rw [plan, Oracle.run_bind_pure, OutputTarget.oracle_run_resolve]

theorem exists_isOutcome (oracle : Oracle) (past : List Call) (t : TypeDecl)
    (options : PassOptions) :
    ∃ outcome : PassOutcome, outcome.subject = t ∧ outcome.options = options ∧
      project.IsOutcome oracle past outcome ∧
      oracle.run past (project.runPass t options) =
        (outcome.report project, outcome.calls project) := by
  let target : OutputTarget := .ofRequest options.outputPath project.directory
    (oracle past (.isDirectory (OutputTarget.requestedPath options.outputPath project.directory)))
  obtain ⟨writing, hwrites, hrun⟩ := exists_writes oracle
    (past ++ OutputTarget.questions options.outputPath project.directory)
    (project.filesFor t options target)
  refine ⟨⟨t, options, target, writing⟩, rfl, rfl, project.isOutcome_of_writes rfl hwrites, ?_⟩
  rw [runPass, Oracle.run_bind, oracle_run_plan, Oracle.run_bind_pure]
  have hplan : (project.planFor t options target).files = project.filesFor t options target := rfl
  dsimp only
  rw [hplan, hrun]
  rfl

/-- Passes, one after another, have these outcomes: each begins after the calls of those before. -/
def Records (project : Project) (oracle : Oracle) : List Call → List PassOutcome → Prop
  | _, [] => True
  | past, outcome :: outcomes =>
    project.IsOutcome oracle past outcome ∧
      Records project oracle (past ++ outcome.calls project) outcomes

variable {project}

theorem records_append {first second : List PassOutcome} (h : project.Records oracle past first)
    (h' : project.Records oracle (past ++ first.flatMap (PassOutcome.calls project)) second) :
    project.Records oracle past (first ++ second) := by
  induction first generalizing past with
  | nil => simpa using h'
  | cons outcome outcomes ih =>
    rw [List.flatMap_cons, ← List.append_assoc] at h'
    exact ⟨h.1, ih h.2 h'⟩

variable (project)

theorem exists_records_runPasses (oracle : Oracle) (past : List Call) (t : TypeDecl)
    (passes : List PassOptions) :
    ∃ outcomes : List PassOutcome,
      (outcomes.map fun outcome ↦ (outcome.subject, outcome.options)) = passes.map (t, ·) ∧
      project.Records oracle past outcomes ∧
      oracle.run past (project.runPasses t passes) =
        (.concat (outcomes.map (PassOutcome.report project)),
          outcomes.flatMap (PassOutcome.calls project)) := by
  induction passes generalizing past with
  | nil => exact ⟨[], rfl, trivial, rfl⟩
  | cons options more ih =>
    obtain ⟨outcome, rfl, rfl, houtcome, hrun⟩ := project.exists_isOutcome oracle past t options
    obtain ⟨outcomes, hpasses, hrecords, hrest⟩ := ih (past ++ outcome.calls project)
    refine ⟨outcome :: outcomes, ?_, ⟨houtcome, hrecords⟩, ?_⟩
    · rw [List.map_cons, List.map_cons, hpasses]
    · rw [runPasses, Oracle.run_bind, hrun]
      dsimp only
      rw [Oracle.run_bind_pure, hrest]
      rfl

end Project

/-! ## Attributes that ask for documentation -/

namespace TypeDecl

variable (t : TypeDecl)

/-- The attributes of a type that ask for documentation, in order. -/
def requests : List Attribute :=
  t.attributes.filter fun a ↦ a.isNamed documentationAttribute

/-- The settings of the requests that give any. -/
def granted : List PassOptions :=
  t.requests.filterMap fun a ↦ (PassOptions.decode a).toOption

/-- What there is to say about each request that gives no settings. -/
def refused : List Diagnostic :=
  t.requests.filterMap fun a ↦
    match PassOptions.decode a with
    | .error fault => some (.attributeSkipped t.fullName fault)
    | .ok _ => none

theorem passes_eq_granted : Project.passes t = t.granted :=
  List.filterMap_map ..

theorem skippedAttributes_eq_refused : Project.skippedAttributes t = t.refused := by
  rw [Project.skippedAttributes, PassOptions.ofType, List.filterMap_map, List.map_filterMap,
    refused]
  congr 1
  funext a
  dsimp only [Function.comp]
  cases PassOptions.decode a <;> rfl

/-- **No request is passed over**: each is granted or refused. -/
theorem length_granted_add_length_refused :
    t.granted.length + t.refused.length = t.requests.length := by
  rw [granted, refused]
  induction t.requests with
  | nil => rfl
  | cons a requests ih =>
    rw [List.filterMap_cons, List.filterMap_cons, List.length_cons, ← ih]
    cases PassOptions.decode a with
    | error fault => exact (Nat.add_assoc ..).symm
    | ok options => exact Nat.add_right_comm ..

theorem requests_eq_nil_of_not_isDocumented (h : t.isDocumented = false) : t.requests = [] := by
  rw [requests, List.filter_eq_nil_iff]
  intro a ha hnamed
  rw [isDocumented, List.any_eq_false] at h
  exact h a ha hnamed

theorem code_of_mem_refused {d : Diagnostic} (h : d ∈ t.refused) : d.code = "CDG003" := by
  obtain ⟨a, -, hd⟩ := List.mem_filterMap.1 h
  cases hdecode : PassOptions.decode a with
  | ok options => simp [hdecode] at hd
  | error fault =>
    rw [hdecode] at hd
    obtain rfl := Option.some.inj hd
    rfl

end TypeDecl

theorem Catalog.requests_documentedTypes (catalog : Catalog) :
    catalog.documentedTypes.flatMap TypeDecl.requests =
      catalog.types.flatMap TypeDecl.requests := by
  rw [documentedTypes]
  induction catalog.types with
  | nil => rfl
  | cons t types ih =>
    rw [List.filter_cons, List.flatMap_cons]
    split
    · rw [List.flatMap_cons, ih]
    · rename_i h
      rw [t.requests_eq_nil_of_not_isDocumented (by simpa using h), ih, List.nil_append]

/-! ## Runs -/

/-- What has happened to a type that asks for documentation. -/
structure TypeOutcome where
  /-- The type. -/
  subject : TypeDecl
  /-- The outcomes of the passes over it, in order. -/
  passes : List PassOutcome

/-- The report on a type: first its requests that give no settings, and then its passes. -/
def TypeOutcome.report (project : Project) (outcome : TypeOutcome) : Report :=
  ⟨[], outcome.subject.refused⟩ ++ .concat (outcome.passes.map (PassOutcome.report project))

/-- The outcomes of the passes over types. -/
def TypeOutcome.allPasses (outcomes : List TypeOutcome) : List PassOutcome :=
  outcomes.flatMap TypeOutcome.passes

theorem TypeOutcome.countP_report (project : Project) (outcome : TypeOutcome) :
    (outcome.report project).diagnostics.countP (fun d ↦ d.code = "CDG003") =
      outcome.subject.refused.length := by
  have hrefused : outcome.subject.refused.countP (fun d ↦ d.code = "CDG003") =
      outcome.subject.refused.length := by
    rw [List.countP_eq_length]
    exact fun d hd ↦ decide_eq_true (outcome.subject.code_of_mem_refused hd)
  have hpasses : List.countP (fun d ↦ d.code = "CDG003")
      (Report.concat (outcome.passes.map (PassOutcome.report project))).diagnostics = 0 := by
    rw [Report.diagnostics_concat, List.countP_eq_zero]
    intro d hd hcode
    obtain ⟨report, hreport, hd⟩ := List.mem_flatMap.1 hd
    obtain ⟨pass, -, rfl⟩ := List.mem_map.1 hreport
    have hmem := List.mem_map_of_mem (f := Diagnostic.code) hd
    rw [pass.map_code_report project, of_decide_eq_true hcode] at hmem
    rcases pass.mem_codes project hmem with h | h | ⟨h, -⟩ <;> exact absurd h (by decide)
  rw [report, Report.diagnostics_append, List.countP_append, hrefused, hpasses, Nat.add_zero]

/-- A run over types, begun after the calls in `past`, consists of these outcomes and gives this
report and these calls. -/
structure Project.IsRun (project : Project) (oracle : Oracle) (past : List Call)
    (types : List TypeDecl) (outcomes : List TypeOutcome) (report : Report) (calls : List Call) :
    Prop where
  /-- The types in order. -/
  subjects : outcomes.map TypeOutcome.subject = types
  /-- There is one pass for each request that gives settings, in order. -/
  passes : ∀ outcome ∈ outcomes, (outcome.passes.map fun pass ↦ (pass.subject, pass.options)) =
    outcome.subject.granted.map (outcome.subject, ·)
  /-- Each pass has its outcome, whatever has happened to those before. -/
  records : project.Records oracle past (TypeOutcome.allPasses outcomes)
  /-- The report is put together from these outcomes. -/
  report_eq : report = .concat (outcomes.map (TypeOutcome.report project))
  /-- No call is made besides those of the passes. -/
  calls_eq : calls = (TypeOutcome.allPasses outcomes).flatMap (PassOutcome.calls project)

namespace Project

variable (project : Project)

theorem exists_isRun_generateFor (oracle : Oracle) (past : List Call) (t : TypeDecl) :
    ∃ outcome, project.IsRun oracle past [t] [outcome]
      (oracle.run past (project.generateFor t)).1 (oracle.run past (project.generateFor t)).2 := by
  obtain ⟨outcomes, hpasses, hrecords, hrun⟩ :=
    project.exists_records_runPasses oracle past t (passes t)
  rw [generateFor, Oracle.run_bind_pure, hrun]
  refine ⟨⟨t, outcomes⟩, rfl, ?_, ?_, ?_, ?_⟩
  · rintro _ hmem
    rw [List.mem_singleton.1 hmem, hpasses, t.passes_eq_granted]
  · rwa [TypeOutcome.allPasses, List.flatMap_singleton]
  · rw [t.skippedAttributes_eq_refused]
    exact (Report.append_empty _).symm
  · rw [TypeOutcome.allPasses, List.flatMap_singleton]

section Runs

variable {project} {types types' : List TypeDecl} {outcomes outcomes' : List TypeOutcome}
  {report report' : Report} {calls calls' : List Call}

/-- One run after another. -/
theorem IsRun.append (h : project.IsRun oracle past types outcomes report calls)
    (h' : project.IsRun oracle (past ++ calls) types' outcomes' report' calls') :
    project.IsRun oracle past (types ++ types') (outcomes ++ outcomes') (report ++ report')
      (calls ++ calls') where
  subjects := by rw [List.map_append, h.subjects, h'.subjects]
  passes := List.forall_mem_append.2 ⟨h.passes, h'.passes⟩
  records := by
    rw [TypeOutcome.allPasses, List.flatMap_append]
    exact records_append h.records (h.calls_eq ▸ h'.records)
  report_eq := by rw [List.map_append, Report.concat_append, ← h.report_eq, ← h'.report_eq]
  calls_eq := by
    rw [TypeOutcome.allPasses, List.flatMap_append, List.flatMap_append, h.calls_eq, h'.calls_eq]
    rfl

/-- There are as many passes and refusals as there are requests. -/
theorem IsRun.length_add_countP (h : project.IsRun oracle past types outcomes report calls) :
    (TypeOutcome.allPasses outcomes).length +
        report.diagnostics.countP (fun d ↦ d.code = "CDG003") =
      (types.flatMap TypeDecl.requests).length := by
  have hpasses := h.passes
  rw [h.report_eq, ← h.subjects, TypeOutcome.allPasses]
  clear h
  induction outcomes with
  | nil => rfl
  | cons outcome outcomes ih =>
    rw [List.forall_mem_cons] at hpasses
    have hlength : outcome.passes.length = outcome.subject.granted.length := by
      simpa using congrArg List.length hpasses.1
    have hrequests := outcome.subject.length_granted_add_length_refused
    have hrest := ih hpasses.2
    rw [List.map_cons, Report.concat_cons, Report.diagnostics_append, List.countP_append,
      outcome.countP_report, List.flatMap_cons, List.length_append, List.map_cons,
      List.flatMap_cons, List.length_append]
    omega

end Runs

theorem exists_isRun_generateEach (oracle : Oracle) (past : List Call) (types : List TypeDecl) :
    ∃ outcomes, project.IsRun oracle past types outcomes
      (oracle.run past (project.generateEach types)).1
      (oracle.run past (project.generateEach types)).2 := by
  induction types generalizing past with
  | nil => exact ⟨[], rfl, fun _ h ↦ absurd h List.not_mem_nil, trivial, rfl, rfl⟩
  | cons t types ih =>
    obtain ⟨outcome, hfirst⟩ := project.exists_isRun_generateFor oracle past t
    obtain ⟨outcomes, hrest⟩ := ih (past ++ (oracle.run past (project.generateFor t)).2)
    refine ⟨outcome :: outcomes, ?_⟩
    rw [generateEach, Oracle.run_bind, Oracle.run_bind_pure]
    exact hfirst.append hrest

/-- **A failing write ends only its own pass.**  Whatever a disk answers to the calls of a run, the
run goes through all types that ask for documentation and gives each of them its passes; every pass
begins with its whole plan and is abandoned at its first failure; the report consists of what there
is to say about each type and each pass, in order; and there are as many passes and refusals as
there are attributes that ask for documentation. -/
theorem generateAll_isRun (oracle : Oracle) (past : List Call) :
    ∃ outcomes,
      project.IsRun oracle past project.catalog.documentedTypes outcomes
        (oracle.run past project.generateAll).1 (oracle.run past project.generateAll).2 ∧
      (TypeOutcome.allPasses outcomes).length +
          (oracle.run past project.generateAll).1.diagnostics.countP (fun d ↦ d.code = "CDG003") =
        (project.catalog.types.flatMap TypeDecl.requests).length := by
  obtain ⟨outcomes, hrun⟩ :=
    project.exists_isRun_generateEach oracle past project.catalog.documentedTypes
  refine ⟨outcomes, hrun, ?_⟩
  rw [← project.catalog.requests_documentedTypes]
  exact hrun.length_add_countP

end Project

end ConfigDocs
