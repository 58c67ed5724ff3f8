import ConfigDocs.Document
import ConfigDocs.Markup.Buffer
import ConfigDocs.Text.Basic

/-!
# AsciiDoc

Headings are lines that begin with equals signs, and the table is fenced by `|===`.  A row is one
line of cells, each behind a bar, and ends without trailing blanks; a row without cells is an empty
line.  A bar within a text is escaped with a backslash, and line breaks become spaces, so that a row
stays on its line.  The summary is written as it is.
-/

set_option autoImplicit false

namespace ConfigDocs.AsciiDoc

open ConfigDocs.Text (singleLine)

/-- A text within a cell: on one line, with its bars escaped. -/
def escape (s : String) : List Char :=
  (singleLine s.toList).flatMap fun c ↦ if c = '|' then ['\\', '|'] else [c]

/-- The text of a link. -/
def link (target text : String) : List Char :=
  "xref:".toList ++ (target.toList ++ '[' :: (escape text ++ [']']))

/-- The content of a cell. -/
def content : Cell → List Char
  | .text text => escape text
  | .link target text => link target text

/-- A cell with its bar. -/
def cell (c : Cell) : List Char :=
  '|' :: ' ' :: (content c ++ [' '])

/-- A column label with its bar. -/
def headerCell (label : String) : List Char :=
  '|' :: ' ' :: (escape label ++ [' '])

/-- The line of column labels. -/
def headerRow (labels : List String) : List Ink :=
  [.put (labels.flatMap headerCell), .endLine]

/-- The line of a row. -/
def row (cells : Row) : List Ink :=
  [.put (cells.flatMap cell), .endLine]

/-- The lines of a table, with its fences. -/
def table (t : Table) : List Ink :=
  .put "[options=\"header\"]\n|===\n".toList ::
    (headerRow t.header ++ (t.rows.flatMap row ++ [.put "|===\n".toList]))

/-- The main heading. -/
def title (text : String) : List Char :=
  "= ".toList ++ (singleLine text.toList ++ ['\n', '\n'])

/-- The secondary heading. -/
def subtitle (text : String) : List Char :=
  "== ".toList ++ (singleLine text.toList ++ ['\n', '\n'])

/-- The summary, of which nothing is written if it is empty. -/
def summary (text : String) : List Char :=
  if text.isEmpty then [] else text.toList ++ ['\n', '\n']

/-- A whole document. -/
def document (d : Document) : List Ink :=
  .put (title d.title) ::
    (d.subtitle.toList.map (fun s ↦ .put (subtitle s)) ++
      (d.summary.toList.map (fun s ↦ .put (summary s)) ++ table d.table))

/-- The strokes that write a part of a document. -/
def ink : Part → List Ink
  | .document d => document d
  | .title text => [.put (title text)]
  | .subtitle text => [.put (subtitle text)]
  | .summary text => [.put (summary text)]
  | .table t => table t
  | .header labels => headerRow labels
  | .headerRow labels => headerRow labels
  | .headerCell label => [.put (headerCell label)]
  | .body rows => rows.flatMap row
  | .row cells => row cells
  | .cell c => [.put (cell c)]
  | .link target text => [.put (link target text)]
  | .text text => [.put (escape text)]

end ConfigDocs.AsciiDoc
