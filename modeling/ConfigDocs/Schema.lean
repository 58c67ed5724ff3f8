import ConfigDocs.Data.Basic

/-!
# The schema of model files

A host that writes model files can ask for a description of the format, in the vocabulary of JSON
Schema.  The description is a value like any other, put together from a few shapes: a text, a truth
value, a list, a reference to another definition, a choice between names, and a structure.
-/

set_option autoImplicit false

namespace ConfigDocs.Schema

/-! ## Shapes -/

/-- A record of named values. -/
def record (fields : List (String × Data)) : Data :=
  .record (fields.map fun field ↦ (some field.1, field.2))

/-- A described shape. -/
def described (description : String) (fields : List (String × Data)) : Data :=
  record (("description", .text description) :: fields)

/-- The reference to a definition. -/
def referenceTo (name : String) : String × Data :=
  ("$ref", .text ("#/$defs/" ++ name))

/-- A value of a basic type. -/
def ofType (type : String) : String × Data :=
  ("type", .text type)

/-- A text that must be given. -/
def text (description : String) : Data :=
  described description [ofType "string"]

/-- A text that may be absent. -/
def optionalText (description : String) : Data :=
  described description
    [("type", .list [.text "string", .text "null"]), ("default", .null)]

/-- A list that is empty unless given. -/
def listOf (description : String) (item : String × Data) : Data :=
  described description [ofType "array", ("default", .list []), ("items", record [item])]

/-- A value of another definition, with its default. -/
def defaulted (description definition default : String) : Data :=
  described description [referenceTo definition, ("default", .text default)]

/-- A choice between names, each with its description. -/
def oneOf (description : String) (names : List (String × String)) : Data :=
  described description [("oneOf", .list (names.map fun choice ↦
    described choice.2 [ofType "string", ("const", .text choice.1)]))]

/-- A structure with the given fields, some of them required. -/
def structureOf (description : String) (fields : List (String × Data)) (required : List String) :
    Data :=
  described description
    [ofType "object", ("properties", record fields), ("required", .list (required.map .text))]

/-! ## Definitions -/

/-- Accessibilities. -/
def accessibilityShape : Data :=
  oneOf "Declared accessibility of a member." [
    ("public", "Visible everywhere."),
    ("internal", "Visible within the assembly."),
    ("protected", "Visible to derived types."),
    ("private", "Visible to the declaring type only.")]

/-- Attributes. -/
def attributeShape : Data :=
  structureOf "An attribute instance applied to a type or member." [
    ("arguments", listOf "Constructor arguments in declaration order."
      (referenceTo "AttributeValue")),
    ("name", text "Attribute class name, optionally namespace-qualified.")] ["name"]

/-- Arguments of attributes. -/
def argumentShape : Data :=
  described "A positional attribute argument." [("anyOf", .list [
    described "Boolean literal." [ofType "boolean"],
    described "Integer literal, including enum ordinals."
      [ofType "integer", ("format", .text "int64")],
    described "String literal, or an enum member name." [ofType "string"]])]

/-- Properties. -/
def propertyShape : Data :=
  structureOf "A public property of a type." [
    ("accessibility", defaulted "Declared accessibility." "Accessibility" "public"),
    ("attributes", listOf "Attributes applied to the property." (referenceTo "Attribute")),
    ("documentation", optionalText "Doc-comment XML."),
    ("initializer", optionalText "Initializer expression as written in source."),
    ("name", text "Property name."),
    ("type", text "Declared type.")] ["name", "type"]

/-- Types. -/
def typeShape : Data :=
  structureOf "A class, record, struct or enum known to the host." [
    ("attributes", listOf "Attributes applied to the type." (referenceTo "Attribute")),
    ("documentation", optionalText "Doc-comment XML."),
    ("kind", defaulted "Type kind." "TypeKind" "class"),
    ("members", listOf "Enum members in declaration order." (ofType "string")),
    ("name", text "Simple type name."),
    ("namespace", described "Containing namespace, empty for the global namespace."
      [ofType "string", ("default", .text "")]),
    ("properties", listOf "Properties in declaration order." (referenceTo "PropertyDescriptor")),
    ("sequence", described "Whether the type enumerates its single type argument."
      [ofType "boolean", ("default", .bool false)])] ["name"]

/-- Kinds of types. -/
def kindShape : Data :=
  oneOf "Kind of a declared type." [
    ("class", "Reference type."),
    ("record", "Record type."),
    ("struct", "Value type."),
    ("interface", "Interface."),
    ("enum", "Enumeration."),
    ("delegate", "Delegate.")]

/-- The schema of model files. -/
def modelFile : Data :=
  record [
    ("$schema", .text "https://json-schema.org/draft/2020-12/schema"),
    ("title", .text "ModelFile"),
    ("description", .text "Serialized form of a type model, as produced by the host."),
    ofType "object",
    ("properties", record [
      ("types", listOf "Every type visible to the generator." (referenceTo "TypeDescriptor"))]),
    ("$defs", record [
      ("Accessibility", accessibilityShape),
      ("Attribute", attributeShape),
      ("AttributeValue", argumentShape),
      ("PropertyDescriptor", propertyShape),
      ("TypeDescriptor", typeShape),
      ("TypeKind", kindShape)])]

end ConfigDocs.Schema
