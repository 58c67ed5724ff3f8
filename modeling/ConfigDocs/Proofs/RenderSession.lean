import ConfigDocs.Proofs.AsciiDocTable

/-!
# Renderers used again and again

A renderer may be asked for documents, for parts of documents and for a fresh start, in any order,
and all that it keeps is the text it has written.  A document is written behind that text as if
nothing were there, and rendering a document gives its text and nothing else
(`Renderer.document_serveAll`).

For Markdown and HTML this is so because nothing is ever taken back.  In AsciiDoc the end of a line
takes back the blanks before it, and it does not stop where the line began: a row without cells,
written by itself, takes back blanks that have been there before.  In a document that cannot happen.
It begins with an equals sign, which is no blank, and what stands before a character that is no
blank is out of reach of everything that is written behind it (`Buffer.Continues.write`).
-/

set_option autoImplicit false

namespace ConfigDocs

namespace Buffer

open Text (trimEnd trimEnd_append_cons)

/-! ## Writing behind other text -/

/-- One buffer has what another one has behind the given text, and there is more to that than
padding. -/
structure Continues (before : List Char) (own b : Buffer) : Prop where
  /-- The text is followed by what the other buffer has. -/
  toList_eq : b.toList = before ++ own.toList
  /-- Something in that is no padding. -/
  anchor : ∃ c ∈ own.toList, isPadding c = false

variable {before : List Char} {own b : Buffer}

/-- A stroke does to the buffer what it does without the text before. -/
theorem Continues.stroke (h : Continues before own b) (ink : Ink) :
    Continues before (own.stroke ink) (b.stroke ink) := by
  obtain ⟨c, hc, hpadding⟩ := h.anchor
  cases ink with
  | put text =>
    refine ⟨?_, c, ?_, hpadding⟩
    · rw [toList_put, toList_put, h.toList_eq, List.append_assoc]
    · rw [toList_put]
      exact List.mem_append_left text hc
  | endLine =>
    obtain ⟨first, rest, hown⟩ := List.append_of_mem hc
    have htrim := trimEnd_append_cons hpadding first rest
    have hbehind := trimEnd_append_cons hpadding (before ++ first) rest
    rw [List.append_assoc, List.append_assoc] at hbehind
    refine ⟨?_, c, ?_, hpadding⟩
    · rw [toList_endLine, toList_endLine, ← trimEnd, ← trimEnd, h.toList_eq, hown, hbehind, htrim,
        List.append_assoc]
    · rw [toList_endLine, ← trimEnd, hown, htrim]
      simp

/-- **Nothing reaches behind a character that is no padding.** -/
theorem Continues.write (h : Continues before own b) (inks : List Ink) :
    Continues before (own.write inks) (b.write inks) := by
  induction inks generalizing own b with
  | nil => exact h
  | cons ink inks ih => exact ih (h.stroke ink)

theorem continues_put (b : Buffer) {text : List Char} (h : ∃ c ∈ text, isPadding c = false) :
    Continues b.toList (empty.stroke (.put text)) (b.stroke (.put text)) where
  toList_eq := by rw [toList_put, toList_put, toList_empty, List.nil_append]
  anchor := by rwa [toList_put, toList_empty, List.nil_append]

end Buffer

/-! ## Documents -/

theorem AsciiDoc.exists_mem_title (text : String) :
    ∃ c ∈ AsciiDoc.title text, Buffer.isPadding c = false :=
  ⟨'=', List.mem_append_left _ (by decide), rfl⟩

/-- **A document is written behind what is there**, in every format. -/
theorem Format.emits_document (format : Format) (d : Document) :
    format.Emits (.document d) (d.render format).toList := by
  intro b
  have hfresh : (d.render format).toList = (Buffer.empty.visit format (.document d)).toList :=
    String.toList_ofList
  rw [hfresh]
  cases format with
  | asciiDoc =>
    have htitle := b.continues_put (AsciiDoc.exists_mem_title d.title)
    exact (htitle.write _).toList_eq
  | markdown => simp [Buffer.visit, Format.ink]
  | html => simp [Buffer.visit, Format.ink]

namespace Renderer

/-! ## Sessions -/

/-- What a renderer may be asked for. -/
inductive Request where
  /-- To write a part of a document. -/
  | visit (part : Part)
  /-- To forget what has been written. -/
  | clear
  /-- To render a whole document. -/
  | render (d : Document)
deriving DecidableEq, Repr

/-- A renderer after a request. -/
def serve (r : Renderer) : Request → Renderer
  | .visit part => r.visit part
  | .clear => r.clear
  | .render d => r.render d

/-- A renderer after requests in order. -/
def serveAll (r : Renderer) (requests : List Request) : Renderer :=
  requests.foldl serve r

@[simp] theorem format_serve (r : Renderer) (request : Request) :
    (r.serve request).format = r.format := by
  cases request <;> rfl

@[simp] theorem format_serveAll (r : Renderer) (requests : List Request) :
    (r.serveAll requests).format = r.format := by
  induction requests generalizing r with
  | nil => rfl
  | cons request requests ih => exact (ih (r.serve request)).trans (r.format_serve request)

theorem text_visit_document (r : Renderer) (d : Document) :
    (r.visit (.document d)).buffer.text = r.buffer.text ++ d.render r.format := by
  have hemits := r.format.emits_document d r.buffer
  rw [← String.toList_inj, String.toList_append, Buffer.text, Buffer.text, String.toList_ofList,
    String.toList_ofList]
  exact hemits

theorem text_render (r : Renderer) (d : Document) :
    (r.render d).buffer.text = d.render r.format :=
  rfl

/-- **A document is added to what is there, and rendering forgets it.**  Whatever a renderer has
been asked for, writing a document keeps the text and adds that of the document, and rendering a
document leaves its text alone. -/
theorem text_document_serveAll (r : Renderer) (past : List Request) (d : Document) :
    ((r.serveAll past).visit (.document d)).buffer.text =
        (r.serveAll past).buffer.text ++ d.render r.format ∧
      ((r.serveAll past).render d).buffer.text = d.render r.format := by
  rw [text_visit_document, text_render, format_serveAll]
  exact ⟨rfl, rfl⟩

/-- A row by itself takes back the blanks before it. -/
example : (serveAll { format := .asciiDoc } [.visit (.text "a "), .visit (.row [])]).buffer.text =
    "a\n" := by
  decide

end Renderer

end ConfigDocs
