import ConfigDocs.Text.Segments

/-!
# Paths, as texts

A path is a text, and the operations here look at nothing but that text: they take it apart at the
slashes, and they do not ask what exists.  What comes before the first piece that says anything is
the *head* of a path: the root, a single leading full stop, or nothing.  An *idle* piece is an empty
one or a full stop anywhere behind the head; it leads nowhere, so trailing idle pieces are ignored
by everything that asks for the last name of a path.

Taking the last name away gives the parent.  `Path.parents` lists the parent, its parent and so on
to the end, which is a recursion on the pieces; `Path.parent?` is the first of them.  The text of a
parent is cut out of the text of the path, so pieces in the middle keep their idle neighbours.
-/

set_option autoImplicit false

namespace ConfigDocs

/-- A path. -/
structure Path where
  /-- The path as it is written. -/
  text : String
deriving DecidableEq, Repr

namespace Path

open ConfigDocs.Text (segments)

/-! ## Pieces -/

/-- What a path begins with. -/
inductive Head where
  /-- A slash. -/
  | root
  /-- A full stop that is a whole piece. -/
  | dot
  /-- Neither. -/
  | plain
deriving DecidableEq, Repr

/-- A piece that leads nowhere. -/
def isIdle (piece : List Char) : Bool :=
  piece == [] || piece == ['.']

theorem isIdle_eq_false_iff {piece : List Char} :
    isIdle piece = false ↔ piece ≠ [] ∧ piece ≠ ['.'] := by
  rw [isIdle, Bool.or_eq_false_iff, beq_eq_false_iff_ne, beq_eq_false_iff_ne]

/-- The head of a path and the pieces behind it. -/
def split (s : List Char) : Head × List (List Char) :=
  match s with
  | '/' :: rest => (.root, segments '/' rest)
  | _ =>
    match segments '/' s with
    | ['.'] :: pieces => (.dot, pieces)
    | pieces => (.plain, pieces)

/-- The text of a path with the given head and pieces. -/
def assemble : Head → List (List Char) → List Char
  | .root, pieces => '/' :: ['/'].intercalate pieces
  | .dot, pieces => ['/'].intercalate (['.'] :: pieces)
  | .plain, pieces => ['/'].intercalate pieces

/-- Whether a path begins at the root. -/
def isAbsolute (p : Path) : Bool :=
  p.text.toList.head? == some '/'

/-- Whether a path ends with a slash. -/
def endsWithSlash (p : Path) : Bool :=
  p.text.toList.getLast? == some '/'

/-! ## Joining -/

/-- The second path as seen from the first one: an absolute path stays as it is, and any other is
appended, behind a slash if one is needed. -/
def join (base p : Path) : Path :=
  if p.isAbsolute then p
  else if base.text.isEmpty || base.endsWithSlash then ⟨base.text ++ p.text⟩
  else ⟨base.text ++ "/" ++ p.text⟩

/-! ## Parents -/

/-- The parents of the path with the given head and pieces, the pieces in reverse order. -/
def parentsOf (head : Head) : List (List Char) → List Path
  | [] => if head = .dot then [⟨""⟩] else []
  | piece :: before =>
    if isIdle piece then parentsOf head before
    else ⟨String.ofList (assemble head (before.dropWhile isIdle).reverse)⟩ :: parentsOf head before

/-- The parent of a path, the parent of that, and so on. -/
def parents (p : Path) : List Path :=
  let (head, pieces) := split p.text.toList
  parentsOf head pieces.reverse

/-- The path without its last name; the root and the empty path have none to take away. -/
def parent? (p : Path) : Option Path :=
  p.parents.head?

/-! ## Names -/

/-- The last name of a path, absent if it ends with a step upwards or has no name at all. -/
def fileName? (p : Path) : Option (List Char) :=
  match (split p.text.toList).2.reverse.dropWhile isIdle with
  | [] => none
  | piece :: _ => if piece = ['.', '.'] then none else some piece

/-- The extension of a name: what follows its last full stop, if something precedes that. -/
def extensionOf? (name : List Char) : Option (List Char) :=
  match (segments '.' name).reverse with
  | last :: before => if before = [] ∨ before = [[]] then none else some last
  | [] => none

/-- The extension of the last name of a path. -/
def extension? (p : Path) : Option (List Char) :=
  p.fileName?.bind extensionOf?

end Path

end ConfigDocs
