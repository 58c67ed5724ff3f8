import ConfigDocs.Error
import ConfigDocs.PassOptions

/-!
# What is reported along the way

A diagnostic tells about one pass: what it is going to do, or what kept it from doing so.  It never
changes what is generated.  Every diagnostic has a code, and the code decides whether it is a
warning or only for information.
-/

set_option autoImplicit false

namespace ConfigDocs

/-- How much a diagnostic matters. -/
inductive Severity where
  /-- Nothing is wrong. -/
  | info
  /-- Something was skipped or done in another way. -/
  | warning
deriving DecidableEq, Repr

/-- The name of a severity. -/
def Severity.name : Severity → String
  | info => "info"
  | warning => "warning"

/-- Something that happened during a pass. -/
inductive Diagnostic where
  /-- A pass begins, with these settings. -/
  | passBegins (typeName : String) (project : Option String) (options : PassOptions)
  /-- A file of the pass goes to this path. -/
  | fileResolved (path : Path)
  /-- A file could not be written. -/
  | writeFailed (path : Path) (failure : Failure)
  /-- Several files are to go to one file, and go to the directory of that file instead. -/
  | notDirectory (path directory : Path)
  /-- An attribute that asks for documentation gives no settings. -/
  | attributeSkipped (typeName : String) (fault : PassOptions.Fault)
deriving DecidableEq

namespace Diagnostic

/-- The code of a diagnostic. -/
def code : Diagnostic → String
  | passBegins .. => "CDG000"
  | fileResolved _ => "CDG000"
  | writeFailed .. => "CDG001"
  | notDirectory .. => "CDG002"
  | attributeSkipped .. => "CDG003"

/-- The severity of a diagnostic. -/
def severity : Diagnostic → Severity
  | passBegins .. => .info
  | fileResolved _ => .info
  | _ => .warning

/-- Whether a diagnostic is a warning. -/
def isWarning (d : Diagnostic) : Bool :=
  d.severity == .warning

/-- What a project without a name is called. -/
def unnamedProject : String := "<unnamed>"

/-- The wording of a diagnostic. -/
def message : Diagnostic → String
  | passBegins typeName project options =>
    "Generating documentation for " ++ typeName ++ " in " ++ project.getD unnamedProject ++ ": " ++
      options.display
  | fileResolved path => "Resolved output file " ++ path.text
  | writeFailed path failure =>
    "Failed to write documentation file: " ++ (Error.inaccessible path failure).message
  | notDirectory path directory =>
    "Output path " ++ path.text ++ " is not a directory; writing separate tables to " ++
      directory.text
  | attributeSkipped typeName fault =>
    "Skipping documentation attribute on " ++ typeName ++ ": " ++ fault.message

/-- A diagnostic on one line. -/
def display (d : Diagnostic) : String :=
  d.severity.name ++ "[" ++ d.code ++ "]: " ++ d.message

/-- The number of warnings among diagnostics. -/
def warningCount (diagnostics : List Diagnostic) : Nat :=
  diagnostics.countP isWarning

end Diagnostic

end ConfigDocs
