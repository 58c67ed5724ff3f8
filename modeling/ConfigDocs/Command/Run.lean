import ConfigDocs.Command.Arguments
import ConfigDocs.Data.Pretty
import ConfigDocs.Generation.Run
import ConfigDocs.Loading
import ConfigDocs.Schema

/-!
# What a command does

Every command but `schema` first loads settings and models.  Settings come from the file that is
asked for, else from the file of the usual name in the working directory, else they are the
defaults; models come from the command line, else from the settings.

The output of a command is a list of lines.  A command that fails has written none.
-/

set_option autoImplicit false

namespace ConfigDocs

/-- How a run of the program ends. -/
inductive Outcome where
  /-- The arguments give no command. -/
  | misuse
  /-- The command failed. -/
  | failed (error : Error)
  /-- The command was carried out, with this output. -/
  | done (output : String)
deriving DecidableEq

/-- The exit code of a run. -/
def Outcome.exitCode : Outcome → Nat
  | misuse => 2
  | failed _ => 1
  | done _ => 0

namespace Command

/-- A text of the given lines, each of them ended. -/
def ofLines (lines : List String) : String :=
  String.join (lines.map (· ++ "\n"))

/-! ## Loading -/

section Loading

variable {m : Type → Type} [Monad m] [Disk m]

/-- Loads the settings that are asked for, or those of the usual name. -/
def loadSettings : Option Path → m (Except Error Settings)
  | some path => Settings.load path
  | none => do
    if ← Disk.isFile Settings.defaultPath then Settings.load Settings.defaultPath
    else return .ok {}

/-- Loads the catalogue for the input of a command. -/
def loadCatalog (input : Input) (settings : Settings) : m (Except Error Catalog) := do
  let models := if input.models.isEmpty then settings.models else input.models
  if models.isEmpty then return .error .noModelFiles
  else do
    let catalog ← Catalog.load models
    return catalog.map (·.withReserved settings.reserved)

/-- Loads the settings and the catalogue for the input of a command. -/
def loadInput (input : Input) : m (Except Error (Settings × Catalog)) := do
  match ← loadSettings input.settings with
  | .error error => return .error error
  | .ok settings => do
    let catalog ← loadCatalog input settings
    return catalog.map fun catalog ↦ (settings, catalog)

end Loading

/-! ## Output -/

/-- A count of files and warnings, as the last line of a command. -/
def tally (verb : String) (files : Nat) (diagnostics : List Diagnostic) : String :=
  verb ++ " " ++ toString files ++ " files (" ++ toString (Diagnostic.warningCount diagnostics) ++
    " warnings)"

/-- The output for a report. -/
def reportLines (report : Report) : List String :=
  report.written.map Path.text ++ [tally "Generated" report.written.length report.diagnostics]

/-- The output for the names of types. -/
def listLines (names : List String) : List String :=
  "Documented types:" :: names.map ("  - " ++ ·)

/-- The output for a file that is not written. -/
def fileLines (file : RenderedFile) : List String :=
  ["==> " ++ file.path.text ++ " <==", file.contents]

/-- The output for the plans of the passes over a type. -/
def previewLines (t : TypeDecl) (plans : List Plan) : List String :=
  let files := plans.flatMap Plan.files
  files.flatMap fileLines ++
    [tally "Previewed" files.length
      (Project.skippedAttributes t ++ plans.flatMap Plan.diagnostics)]

/-! ## Carrying out -/

section Execution

variable {m : Type → Type} [Monad m] [Disk m]

/-- Writes the documentation of one type, or of every type that asks for it. -/
def generateReport (project : Project) : Option String → m (Except Error Report)
  | some name => project.generateType name
  | none => do
    let report ← project.generateAll
    return .ok report

/-- The project of a command that writes: the command line goes before the settings. -/
def projectOf (settings : Settings) (catalog : Catalog) (projectDirectory : Option Path)
    (projectName : Option String) : Project where
  catalog
  directory := (projectDirectory.or settings.projectDirectory).getD ⟨""⟩
  name := projectName.or settings.projectName

/-- Plans the documentation of the type a name stands for. -/
def previewOf (project : Project) (name : String) : m (Except Error (List String)) :=
  match project.find name with
  | .error error => return .error error
  | .ok t => do
    let plans ← project.preview t
    return .ok (previewLines t plans)

/-- Carries out a command: the lines of its output. -/
def run : Command → m (Except Error (List String))
  | .schema => return .ok [Json.pretty Schema.modelFile]
  | .list input => do
    let loaded ← loadInput input
    return loaded.map fun (_, catalog) ↦ listLines (Project.documentedNames { catalog })
  | .preview input typeName => do
    match ← loadInput input with
    | .error error => return .error error
    | .ok (_, catalog) => previewOf { catalog } typeName
  | .generate input projectDirectory projectName typeName => do
    match ← loadInput input with
    | .error error => return .error error
    | .ok (settings, catalog) => do
      let report ← generateReport (projectOf settings catalog projectDirectory projectName) typeName
      return report.map reportLines

/-- Runs the program with the given arguments. -/
def runArguments (arguments : List String) : m Outcome :=
  match ofArguments? arguments with
  | none => return .misuse
  | some command => do
    match ← command.run with
    | .error error => return .failed error
    | .ok lines => return .done (ofLines lines)

end Execution

end Command

end ConfigDocs
