import ConfigDocs.Markup.AsciiDoc
import ConfigDocs.Markup.Html
import ConfigDocs.Markup.Markdown
import ConfigDocs.PassOptions

/-!
# Rendering

A renderer keeps a buffer and writes parts of documents to the end of it.  Rendering a document
starts from an empty buffer, so that what was written before does not show in it.
-/

set_option autoImplicit false

namespace ConfigDocs

/-- The strokes that write a part of a document in a format. -/
def Format.ink : Format → Part → List Ink
  | .asciiDoc, part => AsciiDoc.ink part
  | .markdown, part => [.put (Markdown.part part)]
  | .html, part => [.put (Html.part part)]

/-- Writes a part of a document to the end of a buffer. -/
def Buffer.visit (b : Buffer) (format : Format) (part : Part) : Buffer :=
  b.write (format.ink part)

/-- A renderer: a format and what has been written in it. -/
structure Renderer where
  /-- Format of the markup. -/
  format : Format
  /-- Text written so far. -/
  buffer : Buffer := .empty
deriving DecidableEq, Repr

namespace Renderer

/-- Writes a part of a document. -/
def visit (r : Renderer) (part : Part) : Renderer :=
  { r with buffer := r.buffer.visit r.format part }

/-- Forgets what has been written. -/
def clear (r : Renderer) : Renderer :=
  { r with buffer := .empty }

/-- Renders a whole document from an empty buffer. -/
def render (r : Renderer) (d : Document) : Renderer :=
  r.clear.visit (.document d)

end Renderer

/-- The text of a document in a format. -/
def Document.render (d : Document) (format : Format) : String :=
  (Renderer.render { format } d).buffer.text

end ConfigDocs
