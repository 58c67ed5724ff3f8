import ConfigDocs.Document
import ConfigDocs.Markup.Buffer
import ConfigDocs.Text.Basic

/-!
# Markdown

The dialect with tables.  A table is a line of column labels, a line of dashes under them, and one
line for each row, every cell closed by a bar; a header or a row without cells leaves no line at
all.  Every character that Markdown could take for a sign of its own is escaped with a backslash,
and line breaks become spaces.  The summary is written as it is, and so is the target of a link.
-/

set_option autoImplicit false

namespace ConfigDocs.Markdown

open ConfigDocs.Text (singleLine)

/-- The characters that are escaped. -/
def specials : List Char :=
  ['\\', '\x60', '*', '_', '\x7b', '\x7d', '[', ']', '(', ')', '#', '+', '-', '!', '|', '<', '>']

/-- A text on one line, with a backslash before every special character. -/
def escape (s : String) : List Char :=
  (singleLine s.toList).flatMap fun c ↦ if specials.contains c then ['\\', c] else [c]

/-- The text of a link. -/
def link (target text : String) : List Char :=
  '[' :: (escape text ++ ']' :: '(' :: (target.toList ++ [')']))

/-- The content of a cell. -/
def content : Cell → List Char
  | .text text => escape text
  | .link target text => link target text

/-- A cell with the bar that closes it. -/
def cell (c : Cell) : List Char :=
  ' ' :: (content c ++ [' ', '|'])

/-- A column label with the bar that closes it. -/
def headerCell (label : String) : List Char :=
  ' ' :: (escape label ++ [' ', '|'])

/-- A line of closed cells; none at all gives no line. -/
def line (cells : List (List Char)) : List Char :=
  if cells.isEmpty then [] else '|' :: (cells.flatten ++ ['\n'])

/-- The line of column labels. -/
def headerRow (labels : List String) : List Char :=
  line (labels.map headerCell)

/-- The line of dashes under the column labels. -/
def rule (labels : List String) : List Char :=
  line (labels.map fun _ ↦ " --- |".toList)

/-- The two lines of the header. -/
def header (labels : List String) : List Char :=
  headerRow labels ++ rule labels

/-- The line of a row. -/
def row (cells : Row) : List Char :=
  line (cells.map cell)

/-- The lines of a table. -/
def table (t : Table) : List Char :=
  header t.header ++ t.rows.flatMap row

/-- The main heading. -/
def title (text : String) : List Char :=
  "# ".toList ++ (escape text ++ ['\n', '\n'])

/-- The secondary heading. -/
def subtitle (text : String) : List Char :=
  "## ".toList ++ (escape text ++ ['\n', '\n'])

/-- The summary, of which nothing is written if it is empty. -/
def summary (text : String) : List Char :=
  if text.isEmpty then [] else text.toList ++ ['\n', '\n']

/-- A whole document. -/
def document (d : Document) : List Char :=
  title d.title ++
    (d.subtitle.toList.flatMap subtitle ++ (d.summary.toList.flatMap summary ++ table d.table))

/-- The text of a part of a document. -/
def part : Part → List Char
  | .document d => document d
  | .title text => title text
  | .subtitle text => subtitle text
  | .summary text => summary text
  | .table t => table t
  | .header labels => header labels
  | .headerRow labels => headerRow labels
  | .headerCell label => headerCell label
  | .body rows => rows.flatMap row
  | .row cells => row cells
  | .cell c => cell c
  | .link target text => link target text
  | .text text => escape text

end ConfigDocs.Markdown
