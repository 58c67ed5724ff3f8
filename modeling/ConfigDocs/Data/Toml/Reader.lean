import ConfigDocs.Data.Toml.Node
import ConfigDocs.Data.Toml.Scalar
import ConfigDocs.Data.Toml.Text

/-!
# Reading TOML

A document is a sequence of statements, one on a line: a header that opens a table, or a key with
its value.  Values nest, in arrays and in tables in braces, to at most `Toml.maxNesting` levels, and
a key has at most so many parts; the recursion runs on the levels that are left, and the loops along
the items of one level run on what is left of the text, which every item must make shorter.

Within braces an entry may run over several lines wherever blanks may stand, except between the
parts of its key.

The statements are then carried out in order on the tables of `ConfigDocs.Data.Toml.Node`, each
below the table that the last header has opened.
-/

set_option autoImplicit false

namespace ConfigDocs.Toml

/-- The levels to which arrays and tables in braces may nest, and the parts a key may have. -/
def maxNesting : Nat := 80

/-! ## Blanks and comments -/

/-- Skips blanks, comments and line breaks.  The flag says that a comment is being skipped. -/
def skipLines : Bool → List Char → Option (List Char)
  | _, [] => some []
  | _, '\r' :: '\n' :: rest => skipLines false rest
  | inComment, c :: rest =>
    if c = '\n' then skipLines false rest
    else if inComment then (if isPlainChar c then skipLines true rest else none)
    else if isSpace c then skipLines false rest
    else if c = '#' then skipLines true rest
    else some (c :: rest)

/-- Skips what may follow a statement, up to the end of the line or of the text. -/
def skipToNextLine : Bool → List Char → Option (List Char)
  | _, [] => some []
  | _, '\r' :: '\n' :: rest => some rest
  | inComment, c :: rest =>
    if c = '\n' then some rest
    else if inComment then (if isPlainChar c then skipToNextLine true rest else none)
    else if isSpace c then skipToNextLine false rest
    else if c = '#' then skipToNextLine true rest
    else none

/-! ## Keys -/

/-- Whether a character may stand in a key without quotes. -/
def isKeyChar (c : Char) : Bool :=
  ('0' ≤ c && c ≤ '9') || ('a' ≤ c && c ≤ 'z') || ('A' ≤ c && c ≤ 'Z') || c == '_' || c == '-'

/-- Reads one part of a key. -/
def readSimpleKey : List Char → Option (String × List Char)
  | '"' :: rest => (readBasic rest).map fun (s, after) ↦ (String.ofList s, after)
  | '\'' :: rest => (readLiteral rest).map fun (s, after) ↦ (String.ofList s, after)
  | s =>
    let key := s.takeWhile isKeyChar
    if key.isEmpty then none else some (String.ofList key, s.dropWhile isKeyChar)

/-- Reads a key of any number of parts: the parts before the last one, and the last one. -/
def readParts (s : List Char) : Option (List String × String × List Char) :=
  match readSimpleKey s with
  | none => none
  | some (key, after) =>
    match after.dropWhile isSpace with
    | '.' :: rest =>
      let next := rest.dropWhile isSpace
      if next.length < s.length then
        (readParts next).map fun (path, last, final) ↦ (key :: path, last, final)
      else none
    | final => some ([], key, final)
termination_by s.length

/-- Reads a key. -/
def readKey (s : List Char) : Option (List String × String × List Char) :=
  (readParts s).filter fun (path, _, _) ↦ path.length < maxNesting

/-! ## Values -/

/-- A way to read a value off the front of a text. -/
abbrev ValueReader := List Char → Option (Data × List Char)

/-- Skips what may stand around the equals sign: blanks, and in a table in braces also comments and
line breaks. -/
def skipAround (braced : Bool) (s : List Char) : Option (List Char) :=
  if braced then skipLines false s else some (s.dropWhile isSpace)

/-- Reads the equals sign and a value. -/
def readAssigned (readValue : ValueReader) (braced : Bool) (s : List Char) :
    Option (Data × List Char) :=
  match skipAround braced s with
  | some ('=' :: rest) => (skipAround braced rest).bind readValue
  | _ => none

/-- Reads a key, the equals sign and a value. -/
def readEntry (readValue : ValueReader) (braced : Bool) (s : List Char) :
    Option ((List String × String × Data) × List Char) :=
  match readKey s with
  | none => none
  | some (path, key, rest) =>
    (readAssigned readValue braced rest).map fun (data, after) ↦ ((path, key, data), after)

/-- Reads the items of an array behind its opening bracket. -/
def readItems (readValue : ValueReader) (s : List Char) : Option (List Data × List Char) :=
  match skipLines false s with
  | none => none
  | some (']' :: after) => some ([], after)
  | some start =>
    match readValue start with
    | none => none
    | some (item, rest) =>
      match skipLines false rest with
      | some (',' :: next) =>
        if next.length < s.length then
          (readItems readValue next).map fun (items, after) ↦ (item :: items, after)
        else none
      | some (']' :: after) => some ([item], after)
      | _ => none
termination_by s.length

/-- Reads the entries of a table in braces behind its opening brace, and adds them to the table. -/
def readEntries (readValue : ValueReader) (table : Node) (s : List Char) :
    Option (Node × List Char) :=
  match skipLines false s with
  | none => none
  | some ('\x7d' :: after) => some (table, after)
  | some start =>
    match readEntry readValue true start with
    | none => none
    | some ((path, key, data), rest) =>
      match table.insert path key data, skipLines false rest with
      | some grown, some (',' :: next) =>
        if next.length < s.length then readEntries readValue grown next else none
      | some grown, some ('\x7d' :: after) => some (grown, after)
      | _, _ => none
termination_by s.length

/-- Reads a string as a value. -/
def readText (s : List Char) : Option (Data × List Char) :=
  (readString s).map fun (text, after) ↦ (.text (String.ofList text), after)

/-- Reads a value within which arrays and tables may nest to the given number of levels. -/
def readValue : Nat → ValueReader
  | 0, s =>
    match s with
    | '"' :: _ | '\'' :: _ => readText s
    | _ => readScalar s
  | levels + 1, s =>
    match s with
    | '"' :: _ | '\'' :: _ => readText s
    | '[' :: rest =>
      (readItems (readValue levels) rest).map fun (items, after) ↦ (.list items, after)
    | '\x7b' :: rest =>
      (readEntries (readValue levels) .fresh rest).map fun (table, after) ↦ (table.toData, after)
    | _ => readScalar s

/-! ## Statements -/

/-- A statement of a document. -/
inductive Statement where
  /-- A header that names a table. -/
  | table (path : List String) (key : String)
  /-- A header that adds a table to an array. -/
  | arrayTable (path : List String) (key : String)
  /-- A key with its value. -/
  | entry (path : List String) (key : String) (data : Data)

/-- Reads a statement. -/
def readStatement : List Char → Option (Statement × List Char)
  | '[' :: '[' :: rest =>
    match readKey (rest.dropWhile isSpace) with
    | some (path, key, ']' :: ']' :: after) => some (.arrayTable path key, after)
    | _ => none
  | '[' :: rest =>
    match readKey (rest.dropWhile isSpace) with
    | some (path, key, ']' :: after) => some (.table path key, after)
    | _ => none
  | s =>
    (readEntry (readValue maxNesting) false s).map fun ((path, key, data), after) ↦
      (.entry path key data, after)

/-- Reads the statements of a document. -/
def readStatements (s : List Char) : Option (List Statement) :=
  match skipLines false s with
  | none => none
  | some [] => some []
  | some start =>
    match readStatement start with
    | none => none
    | some (statement, rest) =>
      match skipToNextLine false rest with
      | none => none
      | some next =>
        if next.length < s.length then (readStatements next).map (statement :: ·) else none
termination_by s.length

/-! ## Documents -/

/-- The tables of a document, and the path of the table the last header has opened. -/
structure DocumentState where
  /-- The table of the whole document. -/
  root : Node
  /-- The path of the open table. -/
  current : List String

/-- Carries out a statement. -/
def DocumentState.step (state : DocumentState) : Statement → Option DocumentState
  | .table path key =>
    (state.root.changeAt false (Node.nameTable key) path).map fun root ↦
      ⟨root, path ++ [key]⟩
  | .arrayTable path key =>
    (state.root.changeAt false (Node.appendTable key) path).map fun root ↦
      ⟨root, path ++ [key]⟩
  | .entry path key data =>
    (state.root.changeAt false (Node.insert path key data) state.current).map fun root ↦
      { state with root }

/-- The text without a byte order mark at its beginning. -/
def withoutByteOrderMark : List Char → List Char
  | '\uFEFF' :: rest => rest
  | s => s

/-- The value a TOML text stands for. -/
def read (text : String) : Option Data := do
  let statements ← readStatements (withoutByteOrderMark text.toList)
  let state ← statements.foldlM DocumentState.step ⟨.fresh, []⟩
  return state.root.toData

/-- What TOML forgives: a list may be too long, and behind a choice stands an empty list or
record. -/
def dialect : Data.Dialect where
  boundedLists := false
  isUnit
    | .list [] => true
    | .record [] => true
    | _ => false

end ConfigDocs.Toml
