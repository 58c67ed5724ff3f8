import ConfigDocs.TypeRef.Basic

/-!
# Declarations of types and properties

What the host knows about a type, as far as its documentation needs it: where the type lives, of
what kind it is, its public face, and the attributes and comments attached to each part.  Two
attributes steer the documentation.  `Documentation` asks for a type to be documented, once for
each time it is attached, and `ExcludeFromDocumentation` keeps a type or a property out.

An attribute may be named with or without its namespace and with or without the suffix
`Attribute`; `Attribute.isNamed` sees through both.
-/

set_option autoImplicit false

namespace ConfigDocs

/-! ## Attributes -/

/-- A positional argument of an attribute. -/
inductive Argument where
  /-- A truth value. -/
  | bool (value : Bool)
  /-- An integer, which may be the ordinal of an enumeration member. -/
  | integer (value : Int64)
  /-- A text, which may be the name of an enumeration member. -/
  | text (value : String)
deriving DecidableEq, Repr

/-- An attribute attached to a type or a property. -/
structure Attribute where
  /-- Name of the attribute, possibly qualified. -/
  name : String
  /-- Arguments in order. -/
  arguments : List Argument
deriving DecidableEq, Repr

/-- The suffix an attribute's name may carry. -/
def Attribute.suffix : List Char :=
  "Attribute".toList

/-- The name of an attribute without its namespace and its suffix. -/
def Attribute.shortName (a : Attribute) : List Char :=
  let simple := Text.lastSegment '.' a.name.toList
  if Attribute.suffix.isSuffixOf simple then simple.take (simple.length - Attribute.suffix.length)
  else simple

/-- Whether an attribute goes by the given short name. -/
def Attribute.isNamed (a : Attribute) (short : String) : Bool :=
  a.shortName == short.toList

/-- Short name of the attribute that asks for documentation. -/
def documentationAttribute : String := "Documentation"

/-- Short name of the attribute that keeps a declaration out of the documentation. -/
def exclusionAttribute : String := "ExcludeFromDocumentation"

/-! ## Properties -/

/-- Who may see a member. -/
inductive Accessibility where
  | «public»
  | internal
  | «protected»
  | «private»
deriving DecidableEq, Repr

/-- A property of a type. -/
structure Property where
  /-- Name of the property. -/
  name : String
  /-- Declared type. -/
  type : TypeRef
  /-- Who may see it. -/
  accessibility : Accessibility
  /-- Attributes in order. -/
  attributes : List Attribute
  /-- Documentation comment. -/
  documentation : Option String
  /-- Initial value, as written in the source. -/
  initializer : Option String
deriving DecidableEq

/-- Whether a property is kept out of the documentation. -/
def Property.isExcluded (p : Property) : Bool :=
  p.attributes.any fun a ↦ a.isNamed exclusionAttribute

/-! ## Types -/

/-- What kind of type a declaration introduces. -/
inductive Kind where
  | «class»
  | record
  | struct
  | interface
  | enum
  | delegate
deriving DecidableEq, Repr

/-- The declaration of a type. -/
structure TypeDecl where
  /-- Name without its namespace. -/
  name : String
  /-- Namespace the type lives in, empty for the global one. -/
  space : String
  /-- Kind of type. -/
  kind : Kind
  /-- Members of an enumeration in order. -/
  members : List String
  /-- Whether the type enumerates its single type argument. -/
  sequence : Bool
  /-- Documentation comment. -/
  documentation : Option String
  /-- Attributes in order. -/
  attributes : List Attribute
  /-- Properties in order. -/
  properties : List Property
deriving DecidableEq

namespace TypeDecl

/-- The name with its namespace. -/
def fullName (t : TypeDecl) : String :=
  if t.space.isEmpty then t.name else t.space ++ "." ++ t.name

/-- Whether a type is kept out of the documentation. -/
def isExcluded (t : TypeDecl) : Bool :=
  t.attributes.any fun a ↦ a.isNamed exclusionAttribute

/-- Whether a type asks for documentation. -/
def isDocumented (t : TypeDecl) : Bool :=
  t.attributes.any fun a ↦ a.isNamed documentationAttribute

/-- The name shown to the reader, with its namespace if that is asked for. -/
def friendlyName (t : TypeDecl) (qualified : Bool) : String :=
  if qualified then t.fullName else t.name

end TypeDecl

end ConfigDocs
