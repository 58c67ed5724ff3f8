import ConfigDocs.Text.Basic
import ConfigDocs.Text.Word

/-!
# Plain text out of documentation comments

A declaration carries its documentation as a fragment of XML, of which two elements matter: what
the declaration is for (`<summary>`) and a sample value (`<example>`).  The fragment is not trusted
to be well formed, so it is never parsed as XML; what counts is

* the **first opening tag** of the element, whatever attributes it has, and
* the **first closing tag** after that.

What lies between is reduced to plain text: nested tags are dropped, the five predefined entities
are decoded, and blanks are normalised, in that order.  Decoding comes after the tags are gone, so
an escaped angle bracket is text and never becomes a tag.

A fragment without the element, or whose element is not closed, has the empty text.
-/

set_option autoImplicit false

namespace ConfigDocs.DocComment

open ConfigDocs.Text

/-! ## Finding the element -/

/-- What follows the pattern if the text begins with it, up to letter case. -/
def afterFolded : List Char → List Char → Option (List Char)
  | [], s => some s
  | _ :: _, [] => none
  | p :: pattern, c :: s => if foldCase c = p then afterFolded pattern s else none

/-- What follows the first occurrence of a character. -/
def afterFirst (x : Char) : List Char → Option (List Char)
  | [] => none
  | c :: rest => if c = x then some rest else afterFirst x rest

/-- What follows the opening tag with which the text begins: the name of the element must end
where a word ends, and the tag runs to the next `>`. -/
def afterOpeningHere (tag : List Char) (s : List Char) : Option (List Char) :=
  match afterFolded ('<' :: tag) s with
  | some (c :: rest) => if isWordChar c then none else afterFirst '>' (c :: rest)
  | _ => none

/-- What follows the first opening tag of an element. -/
def afterOpening (tag : List Char) : List Char → Option (List Char)
  | [] => none
  | c :: rest =>
    match afterOpeningHere tag (c :: rest) with
    | some content => some content
    | none => afterOpening tag rest

/-- The closing tag of an element. -/
def closingTag (tag : List Char) : List Char :=
  '<' :: '/' :: (tag ++ ['>'])

/-- What stands before the first closing tag of an element. -/
def beforeClosing (tag : List Char) : List Char → Option (List Char)
  | [] => none
  | c :: rest =>
    match afterFolded (closingTag tag) (c :: rest) with
    | some _ => some []
    | none => (beforeClosing tag rest).map (c :: ·)

/-- The content of the first element with the given tag. -/
def content? (tag : List Char) (xml : List Char) : Option (List Char) :=
  if xml.all isBlank then none else (afterOpening tag xml).bind (beforeClosing tag)

/-! ## Reducing the content to plain text -/

/-- Drops every tag, from `<` to the next `>`.  The flag says that a tag is being passed over; a
`<` after which no `>` comes is text. -/
def dropTags : Bool → List Char → List Char
  | _, [] => []
  | true, c :: rest => dropTags (c != '>') rest
  | false, c :: rest =>
    if c = '<' ∧ '>' ∈ rest then dropTags true rest else c :: dropTags false rest

/-- Decodes the five predefined entities.  The ampersand comes last, so that what it decodes to is
not taken for the beginning of another entity. -/
def decodeEntities (s : List Char) : List Char :=
  let s := replaceAll "&lt;".toList ['<'] s
  let s := replaceAll "&gt;".toList ['>'] s
  let s := replaceAll "&quot;".toList ['"'] s
  let s := replaceAll "&apos;".toList ['\''] s
  replaceAll "&amp;".toList ['&'] s

/-- The plain text of the content of an element. -/
def plainText (content : List Char) : List Char :=
  normalizeBlanks (decodeEntities (dropTags false content))

/-- The plain text of the first element with the given tag, empty if there is none. -/
def elementText (tag : String) (xml : Option String) : String :=
  match xml.bind fun text ↦ content? tag.toList text.toList with
  | some content => String.ofList (plainText content)
  | none => ""

/-- What a declaration is for. -/
def summary (xml : Option String) : String :=
  elementText "summary" xml

/-- The sample value a declaration gives. -/
def sample (xml : Option String) : String :=
  elementText "example" xml

end ConfigDocs.DocComment
