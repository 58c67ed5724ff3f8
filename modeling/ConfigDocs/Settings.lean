import ConfigDocs.Catalog.Basic
import ConfigDocs.Data.Format
import ConfigDocs.Error

/-!
# The settings of a project

A project may keep its settings in a TOML file.  Every setting has a default, so the empty file is
valid.  The one thing that is checked beyond the kind of each value is that every reserved namespace
has a name in every segment.

Paths in the file are meant relative to the directory of the file (`Settings.relativeTo`).
-/

set_option autoImplicit false

namespace ConfigDocs

/-- The settings of a project. -/
structure Settings where
  /-- Where relative output paths start. -/
  projectDirectory : Option Path := none
  /-- The name under which the project is reported. -/
  projectName : Option String := none
  /-- Namespaces whose types are never expanded. -/
  reserved : List String := defaultReserved
  /-- Model files to load if none are asked for. -/
  models : List Path := []
deriving DecidableEq, Repr

namespace Settings

/-- The name under which settings are looked for. -/
def defaultPath : Path := ⟨"confdoc.toml"⟩

/-! ## Reading -/

/-- The names of the settings. -/
def fields : List String :=
  ["project_dir", "project_name", "reserved_namespaces", "models"]

/-- A path. -/
def path? (value : Data) : Option Path :=
  value.text?.map Path.mk

/-- The settings in the value of a settings file. -/
def ofData? (value : Data) : Option Settings :=
  match value.structure? (DataFormat.dialect .toml) fields with
  | some [projectDirectory, projectName, reserved, models] => do
    return {
      projectDirectory := ← Data.orDefault none (fun v ↦ (path? v).map some) projectDirectory
      projectName := ← Data.orDefault none (fun v ↦ v.text?.map some) projectName
      reserved := ← Data.orDefault defaultReserved (Data.list? Data.text?) reserved
      models := ← Data.orDefault [] (Data.list? path?) models }
  | _ => none

/-- The settings a text gives, unchecked. -/
def ofText? (text : String) : Option Settings :=
  (DataFormat.read .toml text).bind ofData?

/-! ## Checking -/

/-- Whether a namespace has a name in every segment. -/
def isNamespace (space : String) : Bool :=
  (Text.segments '.' space.toList).all fun segment ↦ !segment.isEmpty

/-- The settings, provided that every reserved namespace is one. -/
def check (settings : Settings) : Except Error Settings :=
  match settings.reserved.find? fun space ↦ !isNamespace space with
  | some space => .error (.malformedNamespace space)
  | none => .ok settings

/-- The settings a text gives, checked; `location` says where the text comes from. -/
def parse (text location : String) : Except Error Settings :=
  match ofText? text with
  | none => .error (.unreadable location)
  | some settings => settings.check

/-! ## Paths -/

/-- The settings with their paths as seen from a directory. -/
def relativeTo (settings : Settings) (base : Path) : Settings :=
  { settings with
    projectDirectory := settings.projectDirectory.map base.join
    models := settings.models.map base.join }

/-- The settings of a file at a path, with their paths as seen from its directory. -/
def relativeToFile (settings : Settings) (path : Path) : Settings :=
  match path.parent? with
  | none => settings
  | some base => settings.relativeTo base

end Settings

end ConfigDocs
