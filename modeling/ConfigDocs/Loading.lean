import ConfigDocs.Disk.FileSystem
import ConfigDocs.ModelFile
import ConfigDocs.Settings

/-!
# Loading models and settings

What is on the disk becomes a catalogue in three steps: each file is read as text, the text as a
model file, and the declarations of all files, one file after the other, become one catalogue.
Every file is read before any clash of names between them is looked for, and the first file that
cannot be read stops everything.

A file whose contents are not what they should be is reported by its absolute path.
-/

set_option autoImplicit false

namespace ConfigDocs

/-! ## Model files as texts -/

namespace ModelFile

/-- The contents of a model file in a format. -/
def ofText? (format : DataFormat) (text : String) : Option ModelFile :=
  (format.read text).bind (ofData? format.dialect)

/-- The contents of a model file in a format; `location` says where the text comes from. -/
def parse (format : DataFormat) (text location : String) : Except Error ModelFile :=
  match ofText? format text with
  | none => .error (.unreadable location)
  | some file => .ok file

/-- The catalogue of all declarations of model files. -/
def merge (files : List ModelFile) : Except Error Catalog :=
  (Catalog.ofDeclarations (files.flatMap ModelFile.types)).mapError .repeatedType

end ModelFile

/-! ## Files -/

section Files

variable {m : Type → Type} [Monad m] [Disk m]

/-- The text of a file. -/
def loadText (path : Path) : m (Except Error String) := do
  let text ← Disk.readText path
  return text.mapError (.inaccessible path)

/-- How a file is referred to: by its absolute path if it has one, else as it was given. -/
def locationOf (path : Path) : m String := do
  let canonical ← Disk.canonical? path
  return (canonical.getD path).text

/-- Loads one model file. -/
def ModelFile.load (path : Path) : m (Except Error ModelFile) := do
  match ← loadText path with
  | .error error => return .error error
  | .ok text => do
    let location ← locationOf path
    return ModelFile.parse (.ofPath path) text location

/-- Loads model files in order, up to the first one that cannot be loaded. -/
def ModelFile.loadEach : List Path → m (Except Error (List ModelFile))
  | [] => return .ok []
  | path :: paths => do
    match ← ModelFile.load path with
    | .error error => return .error error
    | .ok file => do
      let files ← ModelFile.loadEach paths
      return files.map (file :: ·)

/-- Loads the catalogue of all declarations of model files. -/
def Catalog.load (paths : List Path) : m (Except Error Catalog) := do
  let files ← ModelFile.loadEach paths
  return files.bind ModelFile.merge

/-- Loads settings, with their paths as seen from the directory of the file. -/
def Settings.load (path : Path) : m (Except Error Settings) := do
  match ← loadText path with
  | .error error => return .error error
  | .ok text => do
    let location ← locationOf path
    return (Settings.parse text location).map (·.relativeToFile path)

end Files

end ConfigDocs
