import ConfigDocs.Generation.Plan

/-!
# Generating documentation

A run goes through passes one after the other.  A pass writes its planned files in order until one
cannot be written; then the rest of that pass is abandoned, with a warning, and the next pass
begins.  Passes share nothing but the disk.

What a run did is its *report*: the paths that were written and everything there was to report.
Reports of parts of a run are joined end to end, so the report of a run is the concatenation of the
reports of its passes.
-/

set_option autoImplicit false

namespace ConfigDocs

/-! ## Reports -/

/-- What a run did. -/
structure Report where
  /-- Paths of the written files in order. -/
  written : List Path
  /-- Diagnostics in order. -/
  diagnostics : List Diagnostic
deriving DecidableEq

namespace Report

/-- The report of a run that did nothing. -/
def empty : Report := ⟨[], []⟩

/-- One report after another. -/
def append (first second : Report) : Report :=
  ⟨first.written ++ second.written, first.diagnostics ++ second.diagnostics⟩

instance : Append Report := ⟨append⟩

/-- Whether there is a warning. -/
def hasWarnings (report : Report) : Bool :=
  report.diagnostics.any Diagnostic.isWarning

@[simp] theorem written_append (first second : Report) :
    (first ++ second).written = first.written ++ second.written := rfl

@[simp] theorem diagnostics_append (first second : Report) :
    (first ++ second).diagnostics = first.diagnostics ++ second.diagnostics := rfl

end Report

/-! ## Writing -/

section Writing

variable {m : Type → Type} [Monad m] [Disk m]

/-- Writes a file, after the directories on the way to it.  A failure comes with the path that was
to be made or written. -/
def RenderedFile.write (file : RenderedFile) : m (Except (Path × Failure) Unit) := do
  let made ←
    match file.path.parent? with
    | none => pure (.ok ())
    | some parent =>
      if parent.text.isEmpty then pure (.ok ())
      else do
        let made ← Disk.makeDirectories parent
        pure (made.mapError fun failure ↦ (parent, failure))
  match made with
  | .error failed => return .error failed
  | .ok () => do
    let written ← Disk.writeText file.path file.contents
    return written.mapError fun failure ↦ (file.path, failure)

/-- Writes files in order until one cannot be written. -/
def writeFiles : List RenderedFile → m Report
  | [] => return .empty
  | file :: files => do
    match ← file.write with
    | .error (path, failure) => return ⟨[], [.writeFailed path failure]⟩
    | .ok () =>
      let rest ← writeFiles files
      return ⟨file.path :: rest.written, rest.diagnostics⟩

end Writing

/-! ## Runs -/

namespace Project

variable {m : Type → Type} [Monad m] [Disk m] (project : Project)

/-- Runs one pass over a type. -/
def runPass (t : TypeDecl) (options : PassOptions) : m Report := do
  let plan : Plan ← project.plan t options
  let outcome ← writeFiles plan.files
  return (⟨[], plan.diagnostics⟩ : Report) ++ outcome

/-- Runs passes over a type in order. -/
def runPasses (t : TypeDecl) : List PassOptions → m Report
  | [] => return .empty
  | options :: more => do
    let first ← project.runPass t options
    let rest ← runPasses t more
    return first ++ rest

/-- Runs every pass over a type. -/
def generateFor (t : TypeDecl) : m Report := do
  let outcome ← project.runPasses t (passes t)
  return (⟨[], skippedAttributes t⟩ : Report) ++ outcome

/-- Runs every pass over each of the given types in order. -/
def generateEach : List TypeDecl → m Report
  | [] => return .empty
  | t :: types => do
    let first ← project.generateFor t
    let rest ← generateEach types
    return first ++ rest

/-- Runs every pass over every type that asks for documentation, in the order of declaration. -/
def generateAll : m Report :=
  project.generateEach project.catalog.documentedTypes

/-- The type a name stands for. -/
def find (name : String) : Except Error TypeDecl :=
  match project.catalog.find name with
  | none => .error (.unknownType name)
  | some t => .ok t

/-- Runs every pass over the type a name stands for. -/
def generateType (name : String) : m (Except Error Report) :=
  match project.find name with
  | .error error => return .error error
  | .ok t => do
    let report ← project.generateFor t
    return .ok report

/-- The full names of the types that ask for documentation. -/
def documentedNames : List String :=
  project.catalog.documentedTypes.map TypeDecl.fullName

/-! ## Previews -/

/-- Plans passes over a type in order, without writing anything. -/
def planEach (t : TypeDecl) : List PassOptions → m (List Plan)
  | [] => return []
  | options :: more => do
    let first ← project.plan t options
    let rest ← planEach t more
    return first :: rest

/-- Plans every pass over a type, without writing anything. -/
def preview (t : TypeDecl) : m (List Plan) :=
  project.planEach t (passes t)

end Project

end ConfigDocs
