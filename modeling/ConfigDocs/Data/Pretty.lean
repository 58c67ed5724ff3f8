import ConfigDocs.Data.Basic

/-!
# Values as indented JSON text

Every item of a list and every field of a record stands on a line of its own, two spaces further in
than the bracket it belongs to; a list or record with nothing in it stays on one line.  A scalar
that nothing accepts, or that cannot be looked at, has no text of its own and is written as the
absent value.
-/

set_option autoImplicit false

namespace ConfigDocs.Json

/-! ## Texts -/

/-- The four digits of a code unit in base sixteen, in lower case. -/
def codeUnitDigits (n : Nat) : List Char :=
  let digits := Nat.toDigits 16 n
  List.replicate (4 - digits.length) '0' ++ digits

/-- A character within a quoted text. -/
def quotedChar (c : Char) : List Char :=
  if c = '"' ∨ c = '\\' then ['\\', c]
  else if c = '\n' then ['\\', 'n']
  else if c = '\r' then ['\\', 'r']
  else if c = '\t' then ['\\', 't']
  else if c = '\x08' then ['\\', 'b']
  else if c = '\x0c' then ['\\', 'f']
  else if c < ' ' then '\\' :: 'u' :: codeUnitDigits c.toNat
  else [c]

/-- A quoted text. -/
def quotedText (s : String) : List Char :=
  '"' :: (s.toList.flatMap quotedChar ++ ['"'])

/-! ## Values -/

/-- The end of a line and the indentation of the next one. -/
def newLine (depth : Nat) : List Char :=
  '\n' :: List.replicate (2 * depth) ' '

mutual

/-- The characters of a value whose closing bracket is indented by `depth` levels. -/
def prettyChars (depth : Nat) : Data → List Char
  | .null => "null".toList
  | .other => "null".toList
  | .unreadable => "null".toList
  | .bool value => (if value then "true" else "false").toList
  | .integer value => (toString value).toList
  | .text value => quotedText value
  | .list [] => ['[', ']']
  | .list (item :: items) =>
    '[' :: (newLine (depth + 1) ++ (prettyChars (depth + 1) item ++
      (prettyItems (depth + 1) items ++ (newLine depth ++ [']']))))
  | .record [] => ['\x7b', '\x7d']
  | .record ((name, value) :: fields) =>
    '\x7b' :: (newLine (depth + 1) ++ (quotedText (name.getD "") ++ ':' :: ' ' ::
      (prettyChars (depth + 1) value ++
        (prettyFields (depth + 1) fields ++ (newLine depth ++ ['\x7d'])))))

/-- The items of a list after the first one. -/
def prettyItems (depth : Nat) : List Data → List Char
  | [] => []
  | item :: items => ',' :: (newLine depth ++ (prettyChars depth item ++ prettyItems depth items))

/-- The fields of a record after the first one. -/
def prettyFields (depth : Nat) : List (Option String × Data) → List Char
  | [] => []
  | (name, value) :: fields =>
    ',' :: (newLine depth ++ (quotedText (name.getD "") ++ ':' :: ' ' ::
      (prettyChars depth value ++ prettyFields depth fields)))

end

/-- A value as indented text. -/
def pretty (value : Data) : String :=
  String.ofList (prettyChars 0 value)

end ConfigDocs.Json
