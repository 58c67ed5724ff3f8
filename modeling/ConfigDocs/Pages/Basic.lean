import ConfigDocs.Catalog.Values
import ConfigDocs.Document
import ConfigDocs.PassOptions

/-!
# Pages and their rows

A page documents one type: it is a document together with the type and, if the layout gives it one,
the name of the file it goes to.  The page of the type that was asked for has a heading of its own,
and the pages it leads to are headed by the name of their type.

A row of the table documents one property in five cells.  The first cell names the property, by its
own name or by the path that leads to it from the type that was asked for; it is a text, or a link
to the page of the type the property expands into.
-/

set_option autoImplicit false

namespace ConfigDocs

/-! ## Paths to properties -/

/-- What stands between the names on the way to a property. -/
def pathSeparator : String := ":"

/-- The path to a property: its name behind the path to its owner, if that is not empty. -/
def joinPath (path name : String) : String :=
  if path.isEmpty then name else path ++ pathSeparator ++ name

theorem joinPath_empty (name : String) : joinPath "" name = name :=
  if_pos rfl

theorem toList_joinPath {path : String} (h : path ≠ "") (name : String) :
    (joinPath path name).toList = path.toList ++ ':' :: name.toList := by
  have hempty : path.isEmpty = false := by
    rw [Bool.eq_false_iff, Ne, String.isEmpty_iff]
    exact h
  rw [joinPath, hempty, if_neg Bool.false_ne_true, String.toList_append, String.toList_append,
    List.append_assoc]
  rfl

/-! ## Rows -/

/-- What the table says about a property. -/
structure PropertyEntry where
  /-- Name of the property, or its path from the root. -/
  parameter : String
  /-- Declared type. -/
  type : String
  /-- Default value. -/
  defaultValue : String
  /-- Example of a value. -/
  exampleValue : String
  /-- What the property is for. -/
  summary : String
deriving DecidableEq, Repr

namespace PropertyEntry

/-- What the table says about a property of `owner` under the given name. -/
def ofProperty (catalog : Catalog) (owner : TypeDecl) (property : Property) (parameter : String) :
    PropertyEntry where
  parameter
  type := property.type.display
  defaultValue := catalog.defaultValue owner property
  exampleValue := catalog.exampleValue owner property
  summary := DocComment.summary property.documentation

/-- The cells of a row behind the first one. -/
def details (e : PropertyEntry) : Row :=
  [.text e.type, .text e.defaultValue, .text e.exampleValue, .text e.summary]

/-- The row with the name as plain text. -/
def row (e : PropertyEntry) : Row :=
  .text e.parameter :: e.details

/-- The row with the name as a link. -/
def linkRow (e : PropertyEntry) (target : String) : Row :=
  .link target e.parameter :: e.details

end PropertyEntry

/-! ## Pages -/

/-- A document and the type it documents. -/
structure Page where
  /-- Documented type. -/
  subject : TypeDecl
  /-- Name of the file, if the layout gives one. -/
  fileName : Option String
  /-- The document. -/
  document : Document
deriving DecidableEq

/-- The page with more rows at the end of its table. -/
def Page.addRows (page : Page) (rows : List Row) : Page :=
  { page with
    document := { page.document with
      table := { page.document.table with rows := page.document.table.rows ++ rows } } }

theorem Page.addRows_addRows (page : Page) (rows more : List Row) :
    (page.addRows rows).addRows more = page.addRows (rows ++ more) := by
  simp only [addRows, List.append_assoc]

/-- The heading of the page that was asked for. -/
def rootTitle : String := "Configuration Documentation"

/-- The document of the type that was asked for, with the given rows. -/
def rootDocument (t : TypeDecl) (options : PassOptions) (rows : List Row) : Document where
  title := rootTitle
  subtitle := some (t.friendlyName options.includeNamespaces)
  summary := some (DocComment.summary t.documentation)
  table := { rows }

/-- The document of a type that another page leads to, with the given rows. -/
def nestedDocument (t : TypeDecl) (options : PassOptions) (rows : List Row) : Document where
  title := t.friendlyName options.includeNamespaces ++ " Configuration"
  summary := some (DocComment.summary t.documentation)
  table := { rows }

end ConfigDocs
