/-!
# Documents

A document is what one output file says, before any markup: a title, perhaps a subtitle and a
summary, and one table.  It knows nothing of formats, so one document can be rendered in each of
them.

A renderer goes through a document part by part, from the whole to the text of each cell.
`Part` is the type of those parts, and `Part.walkDocument` lists a document together with
everything within it, each part before the parts it is made of.
-/

set_option autoImplicit false

namespace ConfigDocs

/-! ## Tables -/

/-- The content of a table cell. -/
inductive Cell where
  /-- Plain text. -/
  | text (text : String)
  /-- A reference to another output file. -/
  | link (target text : String)
deriving DecidableEq, Repr

/-- The cells of a table row in order. -/
abbrev Row := List Cell

/-- The labels of the columns of a documentation table. -/
def columnLabels : List String :=
  ["Parameter", "Type", "Default Value", "Example Value", "Description"]

/-- A table. -/
structure Table where
  /-- Labels of the columns. -/
  header : List String := columnLabels
  /-- Rows in order. -/
  rows : List Row := []
deriving DecidableEq, Repr

/-! ## Documents -/

/-- What one output file says. -/
structure Document where
  /-- Main heading. -/
  title : String
  /-- Secondary heading. -/
  subtitle : Option String := none
  /-- Introductory paragraph, which may be empty. -/
  summary : Option String := none
  /-- The table of parameters. -/
  table : Table := {}
deriving DecidableEq, Repr

/-! ## Parts -/

/-- A part of a document. -/
inductive Part where
  | document (document : Document)
  | title (text : String)
  | subtitle (text : String)
  | summary (text : String)
  | table (table : Table)
  | header (labels : List String)
  | headerRow (labels : List String)
  | headerCell (label : String)
  | body (rows : List Row)
  | row (cells : Row)
  | cell (cell : Cell)
  | link (target text : String)
  | text (text : String)
deriving DecidableEq, Repr

namespace Part

/-- The content of a cell as a part. -/
def ofContent : Cell → Part
  | .text s => .text s
  | .link target s => .link target s

/-- A cell and its content. -/
def walkCell (cell : Cell) : List Part :=
  [.cell cell, ofContent cell]

/-- A row and everything within it. -/
def walkRow (row : Row) : List Part :=
  .row row :: row.flatMap walkCell

/-- A table and everything within it. -/
def walkTable (table : Table) : List Part :=
  .table table :: .header table.header :: .headerRow table.header ::
    (table.header.map .headerCell ++ .body table.rows :: table.rows.flatMap walkRow)

/-- A document and everything within it, in the order in which a renderer goes through it. -/
def walkDocument (document : Document) : List Part :=
  .document document :: .title document.title ::
    (document.subtitle.toList.map .subtitle ++ (document.summary.toList.map .summary ++
      walkTable document.table))

/-- The text a part stands for, if it is a leaf. -/
def leafText? : Part → Option String
  | .title s | .subtitle s | .summary s | .headerCell s | .link _ s | .text s => some s
  | _ => none

end Part

end ConfigDocs
