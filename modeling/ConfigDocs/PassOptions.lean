import ConfigDocs.Declaration
import ConfigDocs.Text.Basic
import ConfigDocs.Text.Quoted

/-!
# The settings of one generation pass

Every `Documentation` attribute of a type asks for one pass over it, and its arguments are the
settings of that pass, by position: the markup format, the output path, and optionally the layout
and a flag for qualified names.  Formats and layouts may be given by ordinal or by name; a value
that means nothing is the default, so the only ways to fail are to give fewer than two arguments
and to give an output path that is no text (`PassOptions.Fault`).
-/

set_option autoImplicit false

namespace ConfigDocs

/-! ## Formats -/

/-- A markup format. -/
inductive Format where
  | asciiDoc
  | markdown
  | html
deriving DecidableEq, Repr

instance : Inhabited Format := ⟨.asciiDoc⟩

namespace Format

/-- The name of a format. -/
def name : Format → String
  | asciiDoc => "AsciiDoc"
  | markdown => "Markdown"
  | html => "Html"

/-- The extension of a file in this format, with its full stop. -/
def extension : Format → String
  | asciiDoc => ".adoc"
  | markdown => ".md"
  | html => ".html"

/-- The format with the given ordinal. -/
def ofOrdinal? (ordinal : Int64) : Option Format :=
  if ordinal = 0 then some asciiDoc
  else if ordinal = 1 then some markdown
  else if ordinal = 2 then some html
  else none

/-- The format with the given name, which may be qualified and in any letter case. -/
def ofName? (name : String) : Option Format :=
  let key := Text.toLowerAscii (Text.simpleName name)
  if key = "asciidoc" ∨ key = "adoc" then some asciiDoc
  else if key = "markdown" ∨ key = "md" then some markdown
  else if key = "html" then some html
  else none

end Format

/-! ## Layouts -/

/-- How the properties of custom types are laid out. -/
inductive Layout where
  /-- One table, with the path to each property in front of it. -/
  | inline
  /-- One table and file for each custom type, linked from the rows that lead to it. -/
  | separate
deriving DecidableEq, Repr

instance : Inhabited Layout := ⟨.inline⟩

namespace Layout

/-- The name of a layout. -/
def name : Layout → String
  | inline => "InlineFlatten"
  | separate => "SeparateTables"

/-- The layout with the given ordinal. -/
def ofOrdinal? (ordinal : Int64) : Option Layout :=
  if ordinal = 0 then some inline
  else if ordinal = 1 then some separate
  else none

/-- The layout with the given name, which may be qualified and in any letter case. -/
def ofName? (name : String) : Option Layout :=
  let key := Text.toLowerAscii (Text.simpleName name)
  if key = "inlinejsonshort" ∨ key = "inlineflatten" ∨ key = "inline" then some inline
  else if key = "separatetables" ∨ key = "separate" then some separate
  else none

end Layout

/-! ## Settings -/

/-- The settings of a pass. -/
structure PassOptions where
  /-- Markup format. -/
  format : Format
  /-- Requested output file or directory. -/
  outputPath : String
  /-- Layout of the properties of custom types. -/
  layout : Layout
  /-- Whether titles and file names have the namespace of a type in them. -/
  includeNamespaces : Bool
deriving DecidableEq, Repr

namespace PassOptions

/-- The settings on one line. -/
def display (options : PassOptions) : String :=
  "Format=" ++ options.format.name ++ ", ComplexLayout=" ++ options.layout.name ++
    ", IncludeNamespaces=" ++ (if options.includeNamespaces then "true" else "false") ++
    ", OutputPath=" ++ options.outputPath

/-- Why the arguments of an attribute are no settings. -/
inductive Fault where
  /-- There are fewer arguments than the two that are required. -/
  | missingArguments (found : Nat)
  /-- The output path is given by something that is no text. -/
  | invalidOutputPath (argument : Argument)
deriving DecidableEq, Repr

/-- An argument as it is shown in a fault. -/
def shownArgument : Argument → String
  | .bool value => "Bool(" ++ (if value then "true" else "false") ++ ")"
  | .integer value => "Integer(" ++ toString value.toInt ++ ")"
  | .text value => "String(" ++ Text.quoted value ++ ")"

/-- The wording of a fault. -/
def Fault.message : Fault → String
  | .missingArguments found =>
    "expected at least 2 arguments (format, output path), found " ++ toString found
  | .invalidOutputPath argument =>
    "output path must be a string, found " ++ shownArgument argument

/-- The format an argument asks for. -/
def formatOf : Argument → Format
  | .integer ordinal => (Format.ofOrdinal? ordinal).getD default
  | .text name => (Format.ofName? name).getD default
  | .bool _ => default

/-- The layout an optional argument asks for. -/
def layoutOf : Option Argument → Layout
  | some (.integer ordinal) => (Layout.ofOrdinal? ordinal).getD default
  | some (.text name) => (Layout.ofName? name).getD default
  | _ => default

/-- The settings an attribute gives. -/
def decode (a : Attribute) : Except Fault PassOptions :=
  match a.arguments with
  | format :: .text outputPath :: more =>
    .ok {
      format := formatOf format
      outputPath
      layout := layoutOf more[0]?
      includeNamespaces := more[1]? = some (.bool true) }
  | _ :: argument :: _ => .error (.invalidOutputPath argument)
  | arguments => .error (.missingArguments arguments.length)

/-- The settings, or the fault, of every `Documentation` attribute of a type, in order. -/
def ofType (t : TypeDecl) : List (Except Fault PassOptions) :=
  (t.attributes.filter fun a ↦ a.isNamed documentationAttribute).map decode

end PassOptions

end ConfigDocs
