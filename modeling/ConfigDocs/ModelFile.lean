import ConfigDocs.Data.Basic
import ConfigDocs.Declaration
import ConfigDocs.TypeRef.Reader

/-!
# Model files

A model file is the list of type declarations that the host hands over, as a value of a data file.
`ModelFile.ofData?` reads declarations out of such a value and `ModelFile.toData` writes them, every
field included.  Reading is strict about what it knows and blind to the rest: a field it knows must
hold what belongs there and may not be given twice, and a field it does not know is passed over.

A declared type is text in the file.  It is read leniently, so that a type reference that cannot be
read does not make the file unreadable.
-/

set_option autoImplicit false

namespace ConfigDocs

open Data

/-- The contents of a model file. -/
structure ModelFile where
  /-- Declarations in order. -/
  types : List TypeDecl
deriving DecidableEq

namespace ModelFile

/-! ## Names of kinds and accessibilities -/

/-- The kinds of types by name. -/
def kinds : List (String × Kind) :=
  [("class", .class), ("record", .record), ("struct", .struct), ("interface", .interface),
    ("enum", .enum), ("delegate", .delegate)]

/-- The accessibilities by name. -/
def accessibilities : List (String × Accessibility) :=
  [("public", .public), ("internal", .internal), ("protected", .protected),
    ("private", .private)]

/-- The name of a kind. -/
def kindName : Kind → String
  | .class => "class"
  | .record => "record"
  | .struct => "struct"
  | .interface => "interface"
  | .enum => "enum"
  | .delegate => "delegate"

/-- The name of an accessibility. -/
def accessibilityName : Accessibility → String
  | .public => "public"
  | .internal => "internal"
  | .protected => "protected"
  | .private => "private"

/-! ## Reading -/

/-- An argument of an attribute: a truth value, an integer of 64 bits, or a text. -/
def argument? : Data → Option Argument
  | .bool value => some (.bool value)
  | .integer value =>
    if Int64.minValue.toInt ≤ value ∧ value ≤ Int64.maxValue.toInt then
      some (.integer (Int64.ofInt value))
    else none
  | .text value => some (.text value)
  | _ => none

/-- The fields of an attribute. -/
def attributeFields : List String :=
  ["name", "arguments"]

/-- An attribute. -/
def attribute? (dialect : Dialect) (value : Data) : Option Attribute :=
  match structure? dialect attributeFields value with
  | some [some name, arguments] => do
    return {
      name := ← name.text?
      arguments := ← orDefault [] (list? argument?) arguments }
  | _ => none

/-- The fields of a property. -/
def propertyFields : List String :=
  ["name", "type", "accessibility", "attributes", "documentation", "initializer"]

/-- A property. -/
def property? (dialect : Dialect) (value : Data) : Option Property :=
  match structure? dialect propertyFields value with
  | some [some name, some type, accessibility, attributes, documentation, initializer] => do
    return {
      name := ← name.text?
      type := TypeRef.ofText (← type.text?)
      accessibility := ← orDefault .public (choice? dialect accessibilities) accessibility
      attributes := ← orDefault [] (list? (attribute? dialect)) attributes
      documentation := ← orDefault none optionalText? documentation
      initializer := ← orDefault none optionalText? initializer }
  | _ => none

/-- The fields of a type declaration. -/
def typeFields : List String :=
  ["name", "namespace", "kind", "members", "sequence", "documentation", "attributes", "properties"]

/-- A type declaration. -/
def type? (dialect : Dialect) (value : Data) : Option TypeDecl :=
  match structure? dialect typeFields value with
  | some [some name, space, kind, members, sequence, documentation, attributes, properties] => do
    return {
      name := ← name.text?
      space := ← orDefault "" text? space
      kind := ← orDefault .class (choice? dialect kinds) kind
      members := ← orDefault [] (list? text?) members
      sequence := ← orDefault false bool? sequence
      documentation := ← orDefault none optionalText? documentation
      attributes := ← orDefault [] (list? (attribute? dialect)) attributes
      properties := ← orDefault [] (list? (property? dialect)) properties }
  | _ => none

/-- The fields of a model file. -/
def fileFields : List String :=
  ["types"]

/-- The contents of a model file. -/
def ofData? (dialect : Dialect) (value : Data) : Option ModelFile :=
  match structure? dialect fileFields value with
  | some [types] => do
    return { types := ← orDefault [] (list? (type? dialect)) types }
  | _ => none

/-! ## Writing -/

/-- A text or nothing. -/
def optionalTextData : Option String → Data
  | none => .null
  | some value => .text value

/-- An argument of an attribute. -/
def argumentData : Argument → Data
  | .bool value => .bool value
  | .integer value => .integer value.toInt
  | .text value => .text value

/-- An attribute. -/
def attributeData (a : Attribute) : Data :=
  .record [
    (some "name", .text a.name),
    (some "arguments", .list (a.arguments.map argumentData))]

/-- A property. -/
def propertyData (p : Property) : Data :=
  .record [
    (some "name", .text p.name),
    (some "type", .text p.type.written),
    (some "accessibility", .text (accessibilityName p.accessibility)),
    (some "attributes", .list (p.attributes.map attributeData)),
    (some "documentation", optionalTextData p.documentation),
    (some "initializer", optionalTextData p.initializer)]

/-- A type declaration. -/
def typeData (t : TypeDecl) : Data :=
  .record [
    (some "name", .text t.name),
    (some "namespace", .text t.space),
    (some "kind", .text (kindName t.kind)),
    (some "members", .list (t.members.map .text)),
    (some "sequence", .bool t.sequence),
    (some "documentation", optionalTextData t.documentation),
    (some "attributes", .list (t.attributes.map attributeData)),
    (some "properties", .list (t.properties.map propertyData))]

/-- The contents of a model file. -/
def toData (file : ModelFile) : Data :=
  .record [(some "types", .list (file.types.map typeData))]

end ModelFile

end ConfigDocs
