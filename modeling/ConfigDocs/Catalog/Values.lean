import ConfigDocs.Catalog.Resolution
import ConfigDocs.DocComment

/-!
# Default values and examples

A table gives for every property the value it has unless configured, and an example of a value it
could have.  Both are read off the declaration where it says something, the initialiser for the one
and the comment for the other; where it does not, an enumeration contributes its first member, and
an example is made up from the declared type.
-/

set_option autoImplicit false

namespace ConfigDocs.Catalog

variable (catalog : Catalog)

/-- The members of the enumeration a property's declared type refers to, if it is one. -/
def enumMembers (owner : TypeDecl) (t : TypeRef) : Option (List String) :=
  match catalog.resolve t owner.space with
  | .declared decl => if decl.kind = .enum then some decl.members else none
  | _ => none

/-- The default value of a property: its initialiser without the blanks around it, else the first
member of its enumeration, else nothing. -/
def defaultValue (owner : TypeDecl) (property : Property) : String :=
  match Text.trim (property.initializer.getD "").toList with
  | [] => ((catalog.enumMembers owner property.type).bind List.head?).getD ""
  | written => String.ofList written

/-- An example of a value of a built-in type. -/
def sampleOf : Builtin → Option String
  | .string => some "example"
  | .bool => some "true"
  | .char => some "c"
  | .object => none
  | _ => some "123"

/-- An example made up from the shape of a type that is neither an enumeration nor built in. -/
def sampleOfShape : TypeRef → String
  | .array _ => "[ ]"
  | .named _ [arg] => if arg.builtin? = some .string then "[ \"en\" ]" else "[ ]"
  | _ => "\x7b \x7d"

/-- An example made up from a declared type. -/
def synthesizedSample (owner : TypeDecl) (t : TypeRef) : String :=
  match catalog.enumMembers owner t with
  | some members => members.head?.getD ""
  | none =>
    let declared := t.stripNullable
    match declared.builtin?.bind sampleOf with
    | some sample => sample
    | none => sampleOfShape declared

/-- The example of a property: the one its comment gives, else one made up from its type. -/
def exampleValue (owner : TypeDecl) (property : Property) : String :=
  let documented := DocComment.sample property.documentation
  if documented.isEmpty then catalog.synthesizedSample owner property.type else documented

end ConfigDocs.Catalog
