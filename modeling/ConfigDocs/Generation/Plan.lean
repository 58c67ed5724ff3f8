import ConfigDocs.Generation.Diagnostic
import ConfigDocs.Generation.Target
import ConfigDocs.Markup.Render
import ConfigDocs.Pages.Layouts

/-!
# What a pass is going to write

A project is a catalogue with the little that generation needs to know besides.  From the settings
of a pass follows its *plan*: the files it is going to write, each with its contents, and what there
is to report before the first of them is written.  The plan asks the disk at most one question, whether
there is a directory at the path of the request; once the target is known, the rest is a function
(`Project.planFor`).

Where a file goes depends on its page.  A page with a file name of its own goes into the directory
of the target.  A page without one goes to the target itself if that is a file, and into it, under
a name claimed for its type, if it is a directory.
-/

set_option autoImplicit false

namespace ConfigDocs

/-- A catalogue to be documented. -/
structure Project where
  /-- The declared types. -/
  catalog : Catalog
  /-- Where relative output paths start. -/
  directory : Path := ⟨""⟩
  /-- The name under which the project is reported. -/
  name : Option String := none

/-- A file that is ready to be written. -/
structure RenderedFile where
  /-- Where it goes. -/
  path : Path
  /-- What it says. -/
  contents : String
deriving DecidableEq, Repr

/-- What a pass is going to write, and what there is to report before that. -/
structure Plan where
  /-- Files in the order of writing. -/
  files : List RenderedFile
  /-- Diagnostics in order. -/
  diagnostics : List Diagnostic
deriving DecidableEq

namespace Project

variable (project : Project)

/-! ## Passes -/

/-- The settings of the passes over a type, one for each attribute that gives any. -/
def passes (t : TypeDecl) : List PassOptions :=
  (PassOptions.ofType t).filterMap Except.toOption

/-- The fault of an attribute that gives no settings. -/
def fault? : Except PassOptions.Fault PassOptions → Option PassOptions.Fault
  | .error fault => some fault
  | .ok _ => none

/-- What there is to report about attributes that give no settings. -/
def skippedAttributes (t : TypeDecl) : List Diagnostic :=
  ((PassOptions.ofType t).filterMap fault?).map (.attributeSkipped t.fullName)

/-! ## Files -/

/-- The path of the file of a page, and the ledger after it. -/
def pagePath (target : OutputTarget) (options : PassOptions) (ledger : Ledger) (page : Page) :
    Path × Ledger :=
  match page.fileName, target with
  | some name, _ => (target.home.join ⟨name⟩, ledger)
  | none, .file path => (path, ledger)
  | none, .directory path =>
    let base := Catalog.baseFileName page.subject options.includeNamespaces
    let claimed := ledger.claim base options.format.extension
    (path.join ⟨claimed.1⟩, claimed.2)

/-- The files of pages in order. -/
def renderPages (target : OutputTarget) (options : PassOptions) :
    Ledger → List Page → List RenderedFile
  | _, [] => []
  | ledger, page :: pages =>
    let placed := pagePath target options ledger page
    ⟨placed.1, page.document.render options.format⟩ ::
      renderPages target options placed.2 pages

/-! ## Plans -/

/-- The warning that a layout of several files has only one file to write to. -/
def targetWarnings (target : OutputTarget) (options : PassOptions) : List Diagnostic :=
  match target, options.layout with
  | .file path, .separate => [.notDirectory path target.home]
  | _, _ => []

/-- The files of a pass over a type. -/
def filesFor (t : TypeDecl) (options : PassOptions) (target : OutputTarget) : List RenderedFile :=
  let (pages, ledger) := project.catalog.pages t options .empty
  renderPages target options ledger pages

/-- The plan of a pass over a type, where the target is known. -/
def planFor (t : TypeDecl) (options : PassOptions) (target : OutputTarget) : Plan :=
  let files := project.filesFor t options target
  { files
    diagnostics :=
      .passBegins t.fullName project.name options ::
        (targetWarnings target options ++ files.map fun file ↦ .fileResolved file.path) }

/-- The plan of a pass over a type. -/
def plan {m : Type → Type} [Monad m] [Disk m] (t : TypeDecl) (options : PassOptions) : m Plan := do
  let target ← OutputTarget.resolve options.outputPath project.directory
  return project.planFor t options target

end Project

end ConfigDocs
