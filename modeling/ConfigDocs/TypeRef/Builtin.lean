import ConfigDocs.Text.Segments

/-!
# The types the language itself provides

A handful of types have a keyword of their own beside their name in the namespace `System`, so
that `int` and `System.Int32` are one type.  `Builtin.ofName?` recognises either spelling.  The
match is exact: `Int32` alone, without the namespace, is an ordinary name.
-/

set_option autoImplicit false

namespace ConfigDocs

/-- A type with a keyword of its own, named by that keyword. -/
inductive Builtin where
  | string
  | bool
  | char
  | sbyte
  | byte
  | short
  | ushort
  | int
  | uint
  | long
  | ulong
  | float
  | double
  | decimal
  | object
deriving DecidableEq, Repr

namespace Builtin

/-- Every built-in type. -/
def all : List Builtin :=
  [string, bool, char, sbyte, byte, short, ushort, int, uint, long, ulong, float, double, decimal,
    object]

/-- The keyword of a built-in type, which is also how it is displayed. -/
def keyword : Builtin → String
  | string => "string"
  | bool => "bool"
  | char => "char"
  | sbyte => "sbyte"
  | byte => "byte"
  | short => "short"
  | ushort => "ushort"
  | int => "int"
  | uint => "uint"
  | long => "long"
  | ulong => "ulong"
  | float => "float"
  | double => "double"
  | decimal => "decimal"
  | object => "object"

/-- The name of a built-in type within the namespace `System`. -/
def frameworkName : Builtin → String
  | string => "String"
  | bool => "Boolean"
  | char => "Char"
  | sbyte => "SByte"
  | byte => "Byte"
  | short => "Int16"
  | ushort => "UInt16"
  | int => "Int32"
  | uint => "UInt32"
  | long => "Int64"
  | ulong => "UInt64"
  | float => "Single"
  | double => "Double"
  | decimal => "Decimal"
  | object => "Object"

/-- Whether the values of a type are numbers. -/
def isNumeric : Builtin → Bool
  | string | bool | char | object => false
  | _ => true

/-- The namespace of the built-in types, with the full stop that ends it. -/
def systemNamespace : List Char :=
  "System.".toList

/-- The built-in type a name stands for, after one leading `global::` is taken away: by its name
in the namespace `System` if it is qualified with that, and by its keyword if it is not. -/
def ofName? (name : String) : Option Builtin :=
  let plain := Text.withoutGlobal name.toList
  match systemNamespace.isPrefixOf? plain with
  | some rest => all.find? fun b ↦ b.frameworkName.toList == rest
  | none => all.find? fun b ↦ b.keyword.toList == plain

end Builtin

end ConfigDocs
