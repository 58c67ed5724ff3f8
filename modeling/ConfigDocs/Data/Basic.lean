/-!
# Values of data files

Models and settings come from files in one of two formats, and what is read out of a file does not
depend on which of them it was in.  `Data` is the value of such a file, as far as anything here
tells values apart: a number with a fraction, a date, and a text that is no sequence of characters
are all the same, because nothing accepts any of them.

A number that cannot be read is a value as well, for one because it is too great for its format, since
a file with such a number is in order as long as nobody looks at it.  Looking at a record means looking at everything in it, also at
fields that have no meaning (`Data.isReadable`), while a structure given as a list is looked at only
as far as it has fields.

The formats do differ in how much they forgive, and a `Data.Dialect` records that:

* a structure may be given as the list of its fields in order, and one format minds when the list
  is too long while the other does not look;
* a choice may be given as a record with the choice for its only key, and the formats disagree on
  what may stand behind that key.
-/

set_option autoImplicit false

namespace ConfigDocs

/-- A value of a data file. -/
inductive Data where
  /-- The absent value. -/
  | null
  /-- A truth value. -/
  | bool (value : Bool)
  /-- An integer. -/
  | integer (value : Int)
  /-- A text. -/
  | text (value : String)
  /-- A scalar that nothing accepts. -/
  | other
  /-- A number that cannot be looked at. -/
  | unreadable
  /-- A list of values. -/
  | list (items : List Data)
  /-- Named values in order.  A name that is no sequence of characters is absent. -/
  | record (fields : List (Option String × Data))
deriving Repr, Inhabited

namespace Data

/-- What a format forgives. -/
structure Dialect where
  /-- Whether a structure given as a list may have no more items than it has fields. -/
  boundedLists : Bool
  /-- Whether a value may stand behind a choice given as a key. -/
  isUnit : Data → Bool

/-! ## Looking at values -/

mutual

/-- Whether everything in a value can be looked at. -/
def isReadable : Data → Bool
  | .unreadable => false
  | .list items => areReadable items
  | .record fields => fieldsReadable fields
  | _ => true

/-- Whether everything in each of some values can be looked at. -/
def areReadable : List Data → Bool
  | [] => true
  | item :: items => item.isReadable && areReadable items

/-- Whether everything in each of some fields can be looked at. -/
def fieldsReadable : List (Option String × Data) → Bool
  | [] => true
  | (_, value) :: fields => value.isReadable && fieldsReadable fields

end

/-! ## Structures -/

/-- The value of a field of a record, which is the only one of its name. -/
def field? (fields : List (Option String × Data)) (name : String) : Option Data :=
  (fields.find? fun f ↦ f.1 == some name).map Prod.snd

/-- Whether a name occurs at most once among the fields of a record. -/
def atMostOnce (fields : List (Option String × Data)) (name : String) : Bool :=
  (fields.filter fun f ↦ f.1 == some name).length ≤ 1

/-- Whether a field of a record is one of the given ones or can at least be looked at. -/
def isPassable (names : List String) (field : Option String × Data) : Bool :=
  match field.1 with
  | none => false
  | some name => names.contains name || field.2.isReadable

/-- The fields of a structure with the given field names, in order, those that are not given
absent.  A record may have further fields, which are looked at and passed over, but none of its
names may be absent and none of the given ones may be repeated. -/
def structure? (dialect : Dialect) (names : List String) : Data → Option (List (Option Data))
  | .record fields =>
    if fields.all (isPassable names) && names.all (atMostOnce fields) then
      some (names.map (field? fields))
    else none
  | .list items =>
    if dialect.boundedLists && names.length < items.length then none
    else some ((List.range names.length).map fun i ↦ items[i]?)
  | _ => none

/-! ## Scalars, lists and choices -/

/-- A text. -/
def text? : Data → Option String
  | .text value => some value
  | _ => none

/-- A truth value. -/
def bool? : Data → Option Bool
  | .bool value => some value
  | _ => none

/-- A text or nothing. -/
def optionalText? : Data → Option (Option String)
  | .null => some none
  | .text value => some (some value)
  | _ => none

/-- The items of a list, each read in the given way. -/
def list? {α : Type} (read : Data → Option α) : Data → Option (List α)
  | .list items => items.mapM read
  | _ => none

/-- A choice by name: as a text, or as the only key of a record. -/
def choice? {α : Type} (dialect : Dialect) (choices : List (String × α)) : Data → Option α
  | .text name => choices.lookup name
  | .record [(some name, payload)] =>
    if dialect.isUnit payload then choices.lookup name else none
  | _ => none

/-- A field that has a default: the default if it is not given, and what it holds if it is. -/
def orDefault {α : Type} (default : α) (read : Data → Option α) : Option Data → Option α
  | none => some default
  | some value => read value

end Data

end ConfigDocs
