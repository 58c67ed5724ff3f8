import ConfigDocs.Generation.Run
import ConfigDocs.Proofs.DiskGrowth
import ConfigDocs.Proofs.RequestedTarget

/-!
# Running a generation again

A second run does not start where the first one did: every directory is there already, and every
file has its last contents from the start.  So the two runs are compared step by step, against the
disk that the first run leaves in the end.  At each step the disk of the second run has the same
directories and files as that one, and what a file holds is what it holds at the same step of the
first run or in the end (`Overlay`).  A program repeats itself if it keeps this up and has the same
result (`Repeats`), and programs that do so can be put one after another.

Making a directory and writing a file repeat themselves if they succeed.  Whether there is a
directory at a path is another matter, since it may be there the second time only.  It is asked in
one place, where the target of a pass is resolved.  If the answer makes a difference, the target was
a file the first time; then a single page has been written to it, which is in the way of a directory
ever after, or several pages have gone elsewhere with a warning.  Hence a run is replayable if
it holds in the end what its warnings say (`Report.HoldsOn`), and this is all that is asked of it
besides success (`Replayable`).
-/

set_option autoImplicit false

namespace ConfigDocs

/-! ## Programs on a disk -/

variable {α β : Type}

/-- Runs a program on a file system: its result, and the file system after it. -/
def FileSystem.run (fs : FileSystem) (x : StateM FileSystem α) : α × FileSystem :=
  x fs

theorem FileSystem.run_bind (fs : FileSystem) (x : StateM FileSystem α)
    (f : α → StateM FileSystem β) :
    fs.run (x >>= f) = (fs.run x).2.run (f (fs.run x).1) :=
  rfl

/-- Whatever stands on the disk before a program stands there after it, as what it is. -/
def Grows (x : StateM FileSystem α) : Prop :=
  ∀ fs : FileSystem, fs ≤ (fs.run x).2

theorem grows_pure (a : α) : Grows (pure a) :=
  fun _ ↦ le_rfl

theorem Grows.bind {x : StateM FileSystem α} {f : α → StateM FileSystem β} (hx : Grows x)
    (hf : ∀ a, Grows (f a)) : Grows (x >>= f) :=
  fun fs ↦ (hx fs).trans (hf (fs.run x).1 (fs.run x).2)

/-- The disk during a second run, as against the disk at the same point of the first run and the one
after it. -/
structure Overlay (final first second : FileSystem) : Prop where
  /-- What stands there stands there after the first run. -/
  le : second ≤ final
  /-- What stands there after the first run stands there. -/
  ge : final ≤ second
  /-- What stands there is from either run. -/
  occupant? : ∀ place, second.occupant? place = first.occupant? place ∨
    second.occupant? place = final.occupant? place

/-- Against a disk with this state after the first run, a program repeats what it did. -/
def Repeats (final : FileSystem) (x : StateM FileSystem α) (first : FileSystem) : Prop :=
  ∀ second, Overlay final first second →
    (second.run x).1 = (first.run x).1 ∧ Overlay final (first.run x).2 (second.run x).2

variable {final fs : FileSystem}

theorem repeats_pure (a : α) : Repeats final (pure a) fs :=
  fun _ h ↦ ⟨rfl, h⟩

theorem Repeats.bind {x : StateM FileSystem α} {f : α → StateM FileSystem β}
    (hx : Repeats final x fs)
    (hf : Repeats final (f (fs.run x).1) (fs.run x).2) : Repeats final (x >>= f) fs := by
  intro second hoverlay
  obtain ⟨hsame, hafter⟩ := hx second hoverlay
  rw [FileSystem.run_bind, FileSystem.run_bind, hsame]
  exact hf (second.run x).2 hafter

theorem Overlay.isDirectory_eq {first second : FileSystem} (h : Overlay final first second)
    (p : Path) :
    second.isDirectory p = final.isDirectory p := by
  rw [Bool.eq_iff_iff]
  exact ⟨FileSystem.isDirectory_of_le h.le, FileSystem.isDirectory_of_le h.ge⟩

/-! ## Operations -/

theorem run_makeDirectories (p : Path) (fs : FileSystem) :
    fs.run (Disk.makeDirectories p) = fs.makeDirectories p :=
  rfl

theorem run_writeText (p : Path) (text : String) (fs : FileSystem) :
    fs.run (Disk.writeText p text) =
      match fs.writeContent p (.text text) with
      | .ok fs' => (.ok (), fs')
      | .error failure => (.error failure, fs) :=
  rfl

theorem grows_makeDirectories (p : Path) : Grows (Disk.makeDirectories p) :=
  fun fs ↦ (fs.isBuiltOn_makeDirectories p).le

theorem grows_writeText (p : Path) (text : String) : Grows (Disk.writeText p text) := by
  intro fs
  rw [run_writeText]
  cases hwritten : fs.writeContent p (.text text) with
  | ok fs' => exact FileSystem.le_of_writeContent hwritten
  | error failure => exact le_rfl

theorem repeats_makeDirectories {p : Path} (hp : p.text.isEmpty = false)
    (h : (fs.makeDirectories p).1 = .ok ()) (hle : (fs.makeDirectories p).2 ≤ final) :
    Repeats final (Disk.makeDirectories p) fs := by
  intro second hoverlay
  have hmade := FileSystem.isDirectory_of_makeDirectories hp h
  have hagain : second.makeDirectories p = (.ok (), second) :=
    FileSystem.makeDirectories_of_isDirectory
      (FileSystem.isDirectory_of_le (hle.trans hoverlay.ge) hmade)
  rw [run_makeDirectories, run_makeDirectories, hagain, h]
  refine ⟨rfl, hoverlay.le, hoverlay.ge, fun place ↦ ?_⟩
  rcases (fs.isBuiltOn_makeDirectories p).occupant? place with hsame | ⟨-, hdirectory⟩
  · rw [hsame]
    exact hoverlay.occupant? place
  · rw [hdirectory]
    exact .inl (FileSystem.occupant?_directory_of_le (hle.trans hoverlay.ge) hdirectory)

theorem repeats_writeText {p : Path} {text : String} {fs' : FileSystem}
    (h : fs.writeContent p (.text text) = .ok fs') (hle : fs' ≤ final) :
    Repeats final (Disk.writeText p text) fs := by
  intro second hoverlay
  obtain ⟨outer, last, hend, -, hput⟩ := FileSystem.writeContent_eq_ok h
  have hbelow : fs ≤ second := (FileSystem.le_of_writeContent h).trans (hle.trans hoverlay.ge)
  -- The first run has left a file there, so the second finds no directory.
  have hfile : final.kind? (String.ofList last :: outer) = some .file :=
    FileSystem.kind?_of_le hle (by rw [FileSystem.kind?, hput.occupant?_self]; rfl)
  have hfree : second.occupant? (String.ofList last :: outer) ≠ some .directory := by
    intro hdirectory
    rw [FileSystem.kind?_of_le hoverlay.le (FileSystem.kind?_eq_directory.2 hdirectory)] at hfile
    cases hfile
  obtain ⟨second', hwritten, hput'⟩ := (hend.of_le hbelow).exists_writeContent (.text text) hfree
  rw [run_writeText, run_writeText, h, hwritten]
  refine ⟨rfl, ⟨?_, ?_⟩, hoverlay.ge.trans (FileSystem.le_of_writeContent hwritten), fun place ↦ ?_⟩
  · rw [hput'.workingPlace]
    exact FileSystem.workingPlace_of_le hoverlay.le
  · intro place kind hkind
    rw [FileSystem.kind?, hput'.occupant?] at hkind
    split at hkind
    · rename_i hplace
      rw [hplace, hfile]
      exact hkind
    · exact FileSystem.kind?_of_le hoverlay.le hkind
  · rw [hput.occupant?, hput'.occupant?]
    split
    · exact .inl rfl
    · exact hoverlay.occupant? place

/-! ## Writing a file -/

namespace RenderedFile

variable {file : RenderedFile}

/-- Writes a file into a directory that is there. -/
def put (file : RenderedFile) : StateM FileSystem (Except (Path × Failure) Unit) := do
  let written ← Disk.writeText file.path file.contents
  return written.mapError fun failure ↦ (file.path, failure)

/-- A file is written at once if its path has no parent, or one that needs not be made. -/
theorem write_eq_put (h : ∀ parent, file.path.parent? = some parent → parent.text.isEmpty = true) :
    file.write = file.put := by
  rw [write]
  cases hparent : file.path.parent? with
  | none => rfl
  | some parent =>
    simp only [h parent hparent, if_true]
    rfl

/-- A file is written after its parent has been made. -/
theorem write_eq_bind {parent : Path} (hparent : file.path.parent? = some parent)
    (hp : parent.text.isEmpty = false) :
    file.write = (Disk.makeDirectories parent >>= fun made ↦
      match made with
      | .error failure => pure (.error (parent, failure))
      | .ok () => file.put : StateM FileSystem _) := by
  rw [write, hparent]
  simp only [hp, Bool.false_eq_true, if_false, pure_bind]
  congr 1
  funext made
  cases made with
  | error failure => rfl
  | ok _ => rfl

/-- The two ways to write a file. -/
theorem parent_cases (file : RenderedFile) :
    (∀ parent, file.path.parent? = some parent → parent.text.isEmpty = true) ∨
      ∃ parent, file.path.parent? = some parent ∧ parent.text.isEmpty = false := by
  cases hparent : file.path.parent? with
  | none => simp
  | some parent =>
    cases hp : parent.text.isEmpty with
    | true =>
      left
      rintro _ ⟨⟩
      exact hp
    | false => exact .inr ⟨parent, rfl, hp⟩

theorem grows_put (file : RenderedFile) : Grows file.put :=
  (grows_writeText file.path file.contents).bind fun _ ↦ grows_pure _

theorem grows_write (file : RenderedFile) : Grows file.write := by
  rcases file.parent_cases with h | ⟨parent, hparent, hp⟩
  · rw [write_eq_put h]
    exact grows_put file
  · rw [write_eq_bind hparent hp]
    refine (grows_makeDirectories parent).bind fun made ↦ ?_
    cases made with
    | error failure => exact grows_pure _
    | ok _ => exact grows_put file

theorem put_eq_ok (h : (fs.run file.put).1 = .ok ()) :
    fs.writeContent file.path (.text file.contents) = .ok (fs.run file.put).2 := by
  rw [put, FileSystem.run_bind, run_writeText] at h ⊢
  cases hwritten : fs.writeContent file.path (.text file.contents) with
  | ok fs' => rfl
  | error failure =>
    rw [hwritten] at h
    cases h

theorem repeats_put (h : (fs.run file.put).1 = .ok ()) (hle : (fs.run file.put).2 ≤ final) :
    Repeats final file.put fs :=
  (repeats_writeText (put_eq_ok h) hle).bind (repeats_pure _)

theorem repeats_write (h : (fs.run file.write).1 = .ok ()) (hle : (fs.run file.write).2 ≤ final) :
    Repeats final file.write fs := by
  rcases file.parent_cases with hnone | ⟨parent, hparent, hp⟩
  · rw [write_eq_put hnone] at h hle ⊢
    exact repeats_put h hle
  · rw [write_eq_bind hparent hp] at h hle ⊢
    rw [FileSystem.run_bind, run_makeDirectories] at h hle
    cases hmade : (fs.makeDirectories parent).1 with
    | error failure =>
      rw [hmade] at h
      cases h
    | ok _ =>
      rw [hmade] at h hle
      refine (repeats_makeDirectories hp hmade ((grows_put file _).trans hle)).bind ?_
      rw [run_makeDirectories, hmade]
      exact repeats_put h hle

/-- **Where a file has been written there will never be a directory.** -/
theorem isDirectory_of_write (h : (fs.run file.write).1 = .ok ())
    (hle : (fs.run file.write).2 ≤ final) : final.isDirectory file.path = false := by
  rcases file.parent_cases with hnone | ⟨parent, hparent, hp⟩
  · rw [write_eq_put hnone] at h hle
    exact FileSystem.isDirectory_of_writeContent (put_eq_ok h) hle
  · rw [write_eq_bind hparent hp, FileSystem.run_bind, run_makeDirectories] at h hle
    cases hmade : (fs.makeDirectories parent).1 with
    | error failure =>
      rw [hmade] at h
      cases h
    | ok _ =>
      rw [hmade] at h hle
      exact FileSystem.isDirectory_of_writeContent (put_eq_ok h) hle

end RenderedFile

/-! ## Reports -/

/-- Every file could be written. -/
def Report.Succeeds (report : Report) : Prop :=
  ∀ d ∈ report.diagnostics, d.code ≠ "CDG001"

/-- Whatever was said to be no directory is none on this disk. -/
def Report.HoldsOn (fs : FileSystem) (report : Report) : Prop :=
  ∀ path home, .notDirectory path home ∈ report.diagnostics → fs.isDirectory path = false

theorem Report.succeeds_append {first second : Report} :
    (first ++ second).Succeeds ↔ first.Succeeds ∧ second.Succeeds := by
  simp only [Succeeds, diagnostics_append, List.forall_mem_append]

theorem Report.holdsOn_append {first second : Report} :
    (first ++ second).HoldsOn fs ↔ first.HoldsOn fs ∧ second.HoldsOn fs := by
  simp only [HoldsOn, diagnostics_append, List.mem_append, or_imp, forall_and]

theorem Report.HoldsOn.of_le {fs' : FileSystem} {report : Report} (h : report.HoldsOn fs')
    (hle : fs ≤ fs') : report.HoldsOn fs := by
  intro path home hmem
  cases hpath : fs.isDirectory path with
  | false => rfl
  | true => exact (FileSystem.isDirectory_of_le hle hpath).symm.trans (h path home hmem)

theorem Report.append_empty (report : Report) : report ++ .empty = report :=
  congrArg₂ Report.mk (List.append_nil _) (List.append_nil _)

theorem Report.empty_append (report : Report) : .empty ++ report = report :=
  rfl

theorem Report.append_assoc (first second third : Report) :
    first ++ second ++ third = first ++ (second ++ third) :=
  congrArg₂ Report.mk (List.append_assoc ..) (List.append_assoc ..)

/-- Reports joined end to end. -/
def Report.concat (reports : List Report) : Report :=
  reports.foldr (· ++ ·) .empty

theorem Report.concat_cons (report : Report) (reports : List Report) :
    concat (report :: reports) = report ++ concat reports := rfl

theorem Report.concat_append (first second : List Report) :
    concat (first ++ second) = concat first ++ concat second := by
  induction first with
  | nil => rfl
  | cons report reports ih => rw [List.cons_append, concat_cons, concat_cons, ih, append_assoc]

theorem Report.diagnostics_concat (reports : List Report) :
    (concat reports).diagnostics = reports.flatMap diagnostics := by
  induction reports with
  | nil => rfl
  | cons report reports ih => rw [concat_cons, diagnostics_append, ih, List.flatMap_cons]

/-- A program whose second run repeats its first run if it does not fail and if what it takes for no
directory stays none. -/
structure Replayable (x : StateM FileSystem Report) : Prop where
  /-- Nothing is taken away. -/
  grows : Grows x
  /-- What is said to be no directory was none before. -/
  holdsOn : ∀ fs : FileSystem, (fs.run x).1.HoldsOn fs
  /-- A second run repeats the first. -/
  repeats : ∀ {final fs : FileSystem}, (fs.run x).1.Succeeds → (fs.run x).1.HoldsOn final →
    (fs.run x).2 ≤ final → Repeats final x fs

theorem replayable_empty : Replayable (pure .empty) where
  grows := grows_pure _
  holdsOn _ _ _ h := absurd h List.not_mem_nil
  repeats _ _ _ := repeats_pure _

/-- A report that says nothing about directories does not change whether a program is replayable. -/
theorem Replayable.prepend {x : StateM FileSystem Report} (hx : Replayable x) {report : Report}
    (hreport : ∀ fs : FileSystem, report.HoldsOn fs) :
    Replayable (x >>= fun outcome ↦ pure (report ++ outcome)) where
  grows := hx.grows.bind fun _ ↦ grows_pure _
  holdsOn fs := Report.holdsOn_append.2 ⟨hreport fs, hx.holdsOn fs⟩
  repeats hsucceeds hholds hle :=
    (hx.repeats (Report.succeeds_append.1 hsucceeds).2 (Report.holdsOn_append.1 hholds).2 hle).bind
      (repeats_pure _)

/-- One replayable program after another. -/
theorem Replayable.append {x y : StateM FileSystem Report} (hx : Replayable x) (hy : Replayable y) :
    Replayable (x >>= fun first ↦ y >>= fun rest ↦ pure (first ++ rest)) where
  grows := hx.grows.bind fun _ ↦ hy.grows.bind fun _ ↦ grows_pure _
  holdsOn fs := Report.holdsOn_append.2
    ⟨hx.holdsOn fs, (hy.holdsOn (fs.run x).2).of_le (hx.grows fs)⟩
  repeats {_ fs} hsucceeds hholds hle := by
    obtain ⟨hsucceeds, hsucceeds'⟩ := Report.succeeds_append.1 hsucceeds
    obtain ⟨hholds, hholds'⟩ := Report.holdsOn_append.1 hholds
    have hbetween : (fs.run x).2 ≤ ((fs.run x).2.run y).2 := hy.grows (fs.run x).2
    exact (hx.repeats hsucceeds hholds (hbetween.trans hle)).bind
      ((hy.repeats hsucceeds' hholds' hle).bind (repeats_pure _))

/-! ## Writing files -/

theorem grows_writeFiles (files : List RenderedFile) : Grows (writeFiles files) := by
  induction files with
  | nil => exact grows_pure _
  | cons file files ih =>
    rw [writeFiles]
    refine file.grows_write.bind fun written ↦ ?_
    cases written with
    | error failed => exact grows_pure _
    | ok _ => exact ih.bind fun _ ↦ grows_pure _

/-- Nothing is taken away after the first file. -/
theorem run_write_le (file : RenderedFile) (files : List RenderedFile) :
    (fs.run file.write).2 ≤ (fs.run (writeFiles (file :: files))).2 := by
  rw [writeFiles, FileSystem.run_bind]
  cases (fs.run file.write).1 with
  | error failed => exact grows_pure _ _
  | ok _ => exact (grows_writeFiles files).bind (fun _ ↦ grows_pure _) _

theorem write_eq_ok_of_succeeds {file : RenderedFile} {files : List RenderedFile}
    (h : (fs.run (writeFiles (file :: files))).1.Succeeds) :
    (fs.run file.write).1 = .ok () := by
  cases hwritten : (fs.run file.write).1 with
  | ok _ => rfl
  | error failed =>
    rw [writeFiles, FileSystem.run_bind, hwritten] at h
    exact absurd rfl (h _ (List.mem_singleton_self _))

theorem repeats_writeFiles {files : List RenderedFile} (h : (fs.run (writeFiles files)).1.Succeeds)
    (hle : (fs.run (writeFiles files)).2 ≤ final) : Repeats final (writeFiles files) fs := by
  induction files generalizing fs with
  | nil => exact repeats_pure _
  | cons file files ih =>
    have hwritten := write_eq_ok_of_succeeds h
    have hbefore := (run_write_le file files).trans hle
    rw [writeFiles, FileSystem.run_bind, hwritten] at h hle
    rw [writeFiles]
    refine (RenderedFile.repeats_write hwritten hbefore).bind ?_
    rw [hwritten]
    exact (ih h hle).bind (repeats_pure _)

/-- Writing says nothing about directories. -/
theorem holdsOn_writeFiles (files : List RenderedFile) (fs : FileSystem) :
    (fs.run (writeFiles files)).1.HoldsOn final := by
  induction files generalizing fs with
  | nil => exact fun _ _ h ↦ absurd h List.not_mem_nil
  | cons file files ih =>
    rw [writeFiles, FileSystem.run_bind]
    cases (fs.run file.write).1 with
    | ok _ => exact ih (fs.run file.write).2
    | error failed =>
      intro path home h
      cases List.mem_singleton.1 h

/-! ## Passes -/

namespace Project

variable (project : Project) (t : TypeDecl) (options : PassOptions)

/-- The target of a pass on a file system. -/
def targetOn (fs : FileSystem) : OutputTarget :=
  .ofRequest options.outputPath project.directory
    (fs.isDirectory (OutputTarget.requestedPath options.outputPath project.directory))

/-- The plan of a pass on a file system. -/
def planOn (fs : FileSystem) : Plan :=
  project.planFor t options (project.targetOn options fs)

theorem run_plan (fs : FileSystem) :
    fs.run (project.plan t options) = (project.planOn t options fs, fs) := by
  have hresolve : fs.run (OutputTarget.resolve options.outputPath project.directory) =
      (project.targetOn options fs, fs) :=
    OutputTarget.run_resolve options.outputPath project.directory fs
  rw [plan, FileSystem.run_bind, hresolve]
  rfl

theorem run_runPass (fs : FileSystem) :
    fs.run (project.runPass t options) =
      (⟨[], (project.planOn t options fs).diagnostics⟩ ++
          (fs.run (writeFiles (project.planOn t options fs).files)).1,
        (fs.run (writeFiles (project.planOn t options fs).files)).2) := by
  rw [runPass, FileSystem.run_bind, run_plan]
  rfl

variable {project t options}

theorem isDirectory_of_targetOn_eq_file {path : Path}
    (h : project.targetOn options fs = .file path) :
    fs.isDirectory path = false := by
  obtain ⟨rfl, -, hoccupied, -⟩ := OutputTarget.ofRequest_eq_file_iff.1 h
  exact hoccupied

/-- A target stays what it is unless it is a file at whose path there is a directory later. -/
theorem targetOn_eq_of_le (hle : fs ≤ final)
    (h : ∀ path, project.targetOn options fs = .file path → final.isDirectory path = false) :
    project.targetOn options final = project.targetOn options fs := by
  have hrises := FileSystem.isDirectory_of_le hle
    (p := OutputTarget.requestedPath options.outputPath project.directory)
  rw [targetOn] at h
  rw [targetOn, targetOn]
  cases hbefore : fs.isDirectory
      (OutputTarget.requestedPath options.outputPath project.directory) with
  | true => rw [hrises hbefore]
  | false =>
    cases hafter : final.isDirectory
        (OutputTarget.requestedPath options.outputPath project.directory) with
    | false => rfl
    | true =>
      rw [hbefore, OutputTarget.ofRequest, Bool.or_false] at h
      rw [OutputTarget.ofRequest, OutputTarget.ofRequest, Bool.or_false, Bool.or_true, if_pos rfl]
      split at h
      · rename_i hdirectory
        rw [if_pos hdirectory]
      · rw [h _ rfl] at hafter
        cases hafter

/-- A plan warns of a target that is a file and is to take several. -/
theorem notDirectory_mem_planOn {path home : Path} :
    .notDirectory path home ∈ (project.planOn t options fs).diagnostics ↔
      project.targetOn options fs = .file path ∧ options.layout = .separate ∧
        home = (project.targetOn options fs).home := by
  rw [planOn, planFor]
  simp only [List.mem_cons, reduceCtorEq, List.mem_append, List.mem_map, and_false, exists_false,
    or_false, false_or]
  cases project.targetOn options fs with
  | directory path' => simp [targetWarnings]
  | file path' =>
    cases hlayout : options.layout with
    | inline => simp [targetWarnings, hlayout]
    | separate => simp [targetWarnings, hlayout, eq_comm]

/-- With one page there is one file. -/
theorem exists_files_planOn_of_inline (hlayout : options.layout = .inline) :
    ∃ file : RenderedFile, (project.planOn t options fs).files = [file] ∧
      file.path = (pagePath (project.targetOn options fs) options .empty
        (project.catalog.inlinePage t options)).1 := by
  rw [← List.map_eq_singleton_iff]
  simp only [planOn, planFor, filesFor, Catalog.pages, hlayout]
  rfl

theorem repeats_plan (h : project.targetOn options final = project.targetOn options fs) :
    Repeats final (project.plan t options) fs := by
  intro second hoverlay
  have htarget : project.targetOn options second = project.targetOn options fs := by
    rw [← h, targetOn, hoverlay.isDirectory_eq]
    rfl
  rw [run_plan, run_plan, planOn, planOn, htarget]
  exact ⟨rfl, hoverlay⟩

/-- The only thing a pass says to be no directory is a target that is a file. -/
theorem holdsOn_runPass
    (h : ∀ path, project.targetOn options fs = .file path → final.isDirectory path = false) :
    (fs.run (project.runPass t options)).1.HoldsOn final := by
  rw [run_runPass, Report.holdsOn_append]
  exact ⟨fun path home hmem ↦ h path (notDirectory_mem_planOn.1 hmem).1, holdsOn_writeFiles _ fs⟩

/-- **A pass finds its target again.** -/
theorem targetOn_eq_of_writeFiles
    (hsucceeds : (fs.run (writeFiles (project.planOn t options fs).files)).1.Succeeds)
    (hholds : Report.HoldsOn final ⟨[], (project.planOn t options fs).diagnostics⟩)
    (hle : (fs.run (writeFiles (project.planOn t options fs).files)).2 ≤ final) :
    project.targetOn options final = project.targetOn options fs := by
  have hbelow := (grows_writeFiles (project.planOn t options fs).files fs).trans hle
  refine targetOn_eq_of_le hbelow fun path hfile ↦ ?_
  cases hlayout : options.layout with
  | separate => exact hholds path _ (notDirectory_mem_planOn.2 ⟨hfile, hlayout, rfl⟩)
  | inline =>
    -- There is no warning, but the page has gone to the target itself.
    obtain ⟨file, hfiles, hpath⟩ := exists_files_planOn_of_inline (t := t) hlayout
    rw [hfile] at hpath
    rw [hfiles] at hsucceeds hle
    rw [show path = file.path from hpath.symm]
    exact RenderedFile.isDirectory_of_write (write_eq_ok_of_succeeds hsucceeds)
      ((run_write_le file []).trans hle)

theorem replayable_runPass (project : Project) (t : TypeDecl) (options : PassOptions) :
    Replayable (project.runPass t options) where
  grows fs := by
    rw [run_runPass]
    exact grows_writeFiles (project.planOn t options fs).files fs
  holdsOn _ := holdsOn_runPass fun _ htarget ↦ isDirectory_of_targetOn_eq_file htarget
  repeats {final fs} hsucceeds hholds hle := by
    rw [run_runPass] at hsucceeds hholds hle
    replace hsucceeds := (Report.succeeds_append.1 hsucceeds).2
    have htarget := targetOn_eq_of_writeFiles hsucceeds (Report.holdsOn_append.1 hholds).1 hle
    rw [runPass]
    refine (repeats_plan htarget).bind ?_
    rw [run_plan]
    exact (repeats_writeFiles hsucceeds hle).bind (repeats_pure _)

/-! ## Runs -/

theorem run_runPasses_nil (project : Project) (t : TypeDecl) (fs : FileSystem) :
    fs.run (project.runPasses t []) = (.empty, fs) :=
  rfl

theorem run_runPasses_cons (project : Project) (t : TypeDecl) (options : PassOptions)
    (more : List PassOptions) (fs : FileSystem) :
    fs.run (project.runPasses t (options :: more)) =
      ((fs.run (project.runPass t options)).1 ++
          ((fs.run (project.runPass t options)).2.run (project.runPasses t more)).1,
        ((fs.run (project.runPass t options)).2.run (project.runPasses t more)).2) :=
  rfl

theorem replayable_runPasses (project : Project) (t : TypeDecl) (passes : List PassOptions) :
    Replayable (project.runPasses t passes) := by
  induction passes with
  | nil => exact replayable_empty
  | cons options more ih => exact (replayable_runPass project t options).append ih

theorem replayable_generateFor (project : Project) (t : TypeDecl) :
    Replayable (project.generateFor t) := by
  refine (replayable_runPasses project t (passes t)).prepend fun fs path home hmem ↦ ?_
  obtain ⟨fault, -, hfault⟩ := List.mem_map.1 hmem
  cases hfault

theorem replayable_generateEach (project : Project) (types : List TypeDecl) :
    Replayable (project.generateEach types) := by
  induction types with
  | nil => exact replayable_empty
  | cons t types ih => exact (replayable_generateFor project t).append ih

theorem replayable_generateAll (project : Project) : Replayable project.generateAll :=
  replayable_generateEach project project.catalog.documentedTypes

end Project

end ConfigDocs
