/-!
# The text a renderer has written so far

Rendering is a sequence of two kinds of stroke: putting characters at the end of the text, and
ending a line, which first takes back the spaces and tabs the text ends with.  Nothing else is ever
done to what is already written.

Both strokes work at the end, so the text is held with its last character first.  `Buffer.toList`
is the text in reading order, and `toList_put`, `toList_endLine` say what the strokes do to it.
-/

set_option autoImplicit false

namespace ConfigDocs

/-- A stroke of the pen. -/
inductive Ink where
  /-- Puts characters at the end of the text. -/
  | put (text : List Char)
  /-- Takes back the spaces and tabs at the end of the text and breaks the line. -/
  | endLine
deriving DecidableEq, Repr

/-- The text written so far. -/
structure Buffer where
  /-- Its characters, the last one first. -/
  reversed : List Char
deriving DecidableEq, Repr

namespace Buffer

/-- The buffer in which nothing is written. -/
def empty : Buffer := ⟨[]⟩

/-- The text in reading order. -/
def toList (b : Buffer) : List Char :=
  b.reversed.reverse

/-- The text in reading order. -/
def text (b : Buffer) : String :=
  String.ofList b.toList

/-- A space or a tab. -/
def isPadding (c : Char) : Bool :=
  c == ' ' || c == '\t'

/-- Writes one stroke. -/
def stroke (b : Buffer) : Ink → Buffer
  | .put text => ⟨text.reverseAux b.reversed⟩
  | .endLine => ⟨'\n' :: b.reversed.dropWhile isPadding⟩

/-- Writes strokes in order. -/
def write (b : Buffer) (inks : List Ink) : Buffer :=
  inks.foldl stroke b

@[simp] theorem toList_empty : empty.toList = [] := rfl

@[simp] theorem toList_put (b : Buffer) (text : List Char) :
    (b.stroke (.put text)).toList = b.toList ++ text := by
  simp [stroke, toList, List.reverseAux_eq]

@[simp] theorem toList_endLine (b : Buffer) :
    (b.stroke .endLine).toList = (b.toList.reverse.dropWhile isPadding).reverse ++ ['\n'] := by
  simp [stroke, toList]

@[simp] theorem write_nil (b : Buffer) : b.write [] = b := rfl

@[simp] theorem write_cons (b : Buffer) (ink : Ink) (inks : List Ink) :
    b.write (ink :: inks) = (b.stroke ink).write inks := rfl

@[simp] theorem write_append (b : Buffer) (first second : List Ink) :
    b.write (first ++ second) = (b.write first).write second := by
  simp [write]

end Buffer

end ConfigDocs
