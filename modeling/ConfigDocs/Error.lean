import ConfigDocs.Disk.FileSystem
import ConfigDocs.Text.Quoted
import ConfigDocs.TypeRef.Reader

/-!
# What stops a run

A problem with a single pass is reported along the way and the run goes on; the errors here end it.
They arise while models and settings are loaded, and when a type is asked for that does not exist.

An error has two texts.  `Error.message` is a sentence for a reader.  `Error.report` is the line
with which the command line ends, which names the error and its parts and quotes every text in
them, so that nothing in a text can be mistaken for a part.
-/

set_option autoImplicit false

namespace ConfigDocs

/-- What stops a run. -/
inductive Error where
  /-- A reserved namespace is empty or has an empty segment. -/
  | malformedNamespace (space : String)
  /-- There is no model file to load. -/
  | noModelFiles
  /-- A file cannot be read or written. -/
  | inaccessible (path : Path) (failure : Failure)
  /-- The contents of a file, or a text, are not what they should be. -/
  | unreadable (location : String)
  /-- A text is no type reference. -/
  | invalidTypeRef (text : String) (fault : TypeRef.Fault)
  /-- Two types share a full name. -/
  | repeatedType (fullName : String)
  /-- There is no type of a name. -/
  | unknownType (name : String)
deriving DecidableEq

namespace Error

/-- The location of a text that comes from no file. -/
def noLocation : String := "string"

/-- All that is said about contents that are not what they should be. -/
def unreadableDetails : String := "malformed content"

/-- What is wrong with a reserved namespace. -/
def namespaceDetails (space : String) : String :=
  "'" ++ space ++ "' is not a valid namespace"

/-- What is wrong when there is no model file. -/
def noModelFilesDetails : String :=
  "no model files given; pass --model or list them in confdoc.toml"

/-- A message about a part of the settings. -/
def settingMessage (component details : String) : String :=
  "configuration validation failed for '" ++ component ++ "': " ++ details

/-- The error as a sentence. -/
def message : Error → String
  | malformedNamespace space => settingMessage "reserved_namespaces" (namespaceDetails space)
  | noModelFiles => settingMessage "models" noModelFilesDetails
  | inaccessible path failure => "I/O error on '" ++ path.text ++ "': " ++ failure.message
  | unreadable location => "failed to parse '" ++ location ++ "': " ++ unreadableDetails
  | invalidTypeRef text fault => "invalid type reference '" ++ text ++ "': " ++ fault.message
  | repeatedType fullName => "type '" ++ fullName ++ "' is declared more than once"
  | unknownType name => "unknown type '" ++ name ++ "'"

/-- A report with two named parts, both of them quoted already. -/
def reportParts (name first firstText second secondText : String) : String :=
  name ++ " \x7b " ++ first ++ ": " ++ firstText ++ ", " ++ second ++ ": " ++ secondText ++ " \x7d"

/-- The error by name and parts. -/
def inspect : Error → String
  | malformedNamespace space =>
    reportParts "ConfigValidation" "component" (Text.quoted "reserved_namespaces") "details"
      (Text.quoted (namespaceDetails space))
  | noModelFiles =>
    reportParts "ConfigValidation" "component" (Text.quoted "models") "details"
      (Text.quoted noModelFilesDetails)
  | inaccessible path failure =>
    reportParts "IoError" "path" (Text.quoted path.text) "details" (Text.quoted failure.message)
  | unreadable location =>
    reportParts "ModelParse" "location" (Text.quoted location) "details"
      (Text.quoted unreadableDetails)
  | invalidTypeRef text fault =>
    reportParts "InvalidTypeRef" "text" (Text.quoted text) "details" (Text.quoted fault.message)
  | repeatedType fullName => "DuplicateType(" ++ Text.quoted fullName ++ ")"
  | unknownType name => "UnknownType(" ++ Text.quoted name ++ ")"

/-- The line with which the command line ends. -/
def report (error : Error) : String :=
  "Error: " ++ error.inspect

end Error

/-- The type reference a text is; the error holds the text and says what is wrong with it. -/
def TypeRef.read (text : String) : Except Error TypeRef :=
  (TypeRef.parse text).mapError (.invalidTypeRef text)

end ConfigDocs
