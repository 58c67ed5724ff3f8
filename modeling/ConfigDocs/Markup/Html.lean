import ConfigDocs.Document
import ConfigDocs.Markup.Buffer

/-!
# HTML

A standalone page.  Every text, the target of a link included, has the five characters that mean
something in HTML replaced by entities, so whatever the texts are, the tags of the page are the
ones written here.
-/

set_option autoImplicit false

namespace ConfigDocs.Html

/-- The entity that stands for a character, or the character itself. -/
def entity (c : Char) : List Char :=
  if c = '&' then "&amp;".toList
  else if c = '<' then "&lt;".toList
  else if c = '>' then "&gt;".toList
  else if c = '"' then "&quot;".toList
  else if c = '\'' then "&#39;".toList
  else [c]

/-- A text with entities for the characters that mean something. -/
def escape (s : String) : List Char :=
  s.toList.flatMap entity

/-- The text of a link. -/
def link (target text : String) : List Char :=
  "<a href=\"".toList ++ (escape target ++ ("\">".toList ++ (escape text ++ "</a>".toList)))

/-- The content of a cell. -/
def content : Cell → List Char
  | .text text => escape text
  | .link target text => link target text

/-- A cell. -/
def cell (c : Cell) : List Char :=
  "<td>".toList ++ (content c ++ "</td>".toList)

/-- A column label. -/
def headerCell (label : String) : List Char :=
  "<th>".toList ++ (escape label ++ "</th>".toList)

/-- The column labels. -/
def headerRow (labels : List String) : List Char :=
  labels.flatMap headerCell

/-- The head of a table. -/
def header (labels : List String) : List Char :=
  "<thead>\n<tr>".toList ++ (headerRow labels ++ "</tr>\n</thead>\n".toList)

/-- A row. -/
def row (cells : Row) : List Char :=
  "<tr>".toList ++ (cells.flatMap cell ++ "</tr>\n".toList)

/-- The body of a table. -/
def body (rows : List Row) : List Char :=
  "<tbody>\n".toList ++ (rows.flatMap row ++ "</tbody>\n".toList)

/-- A table. -/
def table (t : Table) : List Char :=
  "<table>\n".toList ++ (header t.header ++ (body t.rows ++ "</table>\n".toList))

/-- The main heading. -/
def title (text : String) : List Char :=
  "<h1>".toList ++ (escape text ++ "</h1>\n".toList)

/-- The secondary heading. -/
def subtitle (text : String) : List Char :=
  "<h2>".toList ++ (escape text ++ "</h2>\n".toList)

/-- The summary, of which nothing is written if it is empty. -/
def summary (text : String) : List Char :=
  if text.isEmpty then [] else "<p>".toList ++ (escape text ++ "</p>\n".toList)

/-- What precedes the content of a page with the given title. -/
def opening (text : String) : List Char :=
  "<!DOCTYPE html>\n<html>\n<head>\n<meta charset=\"utf-8\">\n<title>".toList ++
    (escape text ++ "</title>\n</head>\n<body>\n".toList)

/-- A whole page. -/
def document (d : Document) : List Char :=
  opening d.title ++ (title d.title ++
    (d.subtitle.toList.flatMap subtitle ++ (d.summary.toList.flatMap summary ++
      (table d.table ++ "</body>\n</html>\n".toList))))

/-- The text of a part of a document. -/
def part : Part → List Char
  | .document d => document d
  | .title text => title text
  | .subtitle text => subtitle text
  | .summary text => summary text
  | .table t => table t
  | .header labels => header labels
  | .headerRow labels => headerRow labels
  | .headerCell label => headerCell label
  | .body rows => body rows
  | .row cells => row cells
  | .cell c => cell c
  | .link target text => link target text
  | .text text => escape text

end ConfigDocs.Html
