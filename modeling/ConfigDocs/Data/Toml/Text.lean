/-!
# Strings of TOML

TOML has four kinds of string.  A *basic* string stands in double quotes and has escapes, a
*literal* string stands in single quotes and has none, and each of them may instead stand in
triples of its quote and then run over several lines.

A string over several lines may end in up to two quotes of its own right before the closing triple,
and its first line break, if nothing precedes it, is not part of it.  In such a basic string a
backslash at the end of a line takes away the line break and every blank after it.

Line breaks are a line feed or a carriage return with a line feed, and no other control character
but the tab may stand in a string.  Each reader here starts behind the opening quotes and gives the
characters of the string together with what follows the closing quotes.
-/

set_option autoImplicit false

namespace ConfigDocs.Toml

/-! ## Characters -/

/-- Whether a character may stand in a string or a comment as it is. -/
def isPlainChar (c : Char) : Bool :=
  c == '\t' || (' ' ≤ c && c ≠ '\x7f')

/-- The value of a hexadecimal digit. -/
def hexDigit? (c : Char) : Option Nat :=
  if '0' ≤ c ∧ c ≤ '9' then some (c.toNat - 48)
  else if 'a' ≤ c ∧ c ≤ 'f' then some (c.toNat - 87)
  else if 'A' ≤ c ∧ c ≤ 'F' then some (c.toNat - 55)
  else none

/-- The character whose code point the given hexadecimal digits spell, if there is one. -/
def codePoint? (digits : List Char) : Option Char := do
  let values ← digits.mapM hexDigit?
  let n := values.foldl (fun n d ↦ 16 * n + d) 0
  if n < 0xD800 ∨ (0xE000 ≤ n ∧ n ≤ 0x10FFFF) then some (Char.ofNat n) else none

/-- The character a letter stands for behind a backslash. -/
def escaped? (c : Char) : Option Char :=
  if c = '"' ∨ c = '\\' then some c
  else if c = 'b' then some '\x08'
  else if c = 'e' then some '\x1b'
  else if c = 'f' then some '\x0c'
  else if c = 'n' then some '\n'
  else if c = 'r' then some '\r'
  else if c = 't' then some '\t'
  else none

/-- Puts a character, if it is one, before the characters of a string. -/
def consRead (c : Option Char) (read : Option (List Char × List Char)) :
    Option (List Char × List Char) :=
  match c, read with
  | some c, some (s, after) => some (c :: s, after)
  | _, _ => none

/-! ## Strings on one line -/

/-- Reads a basic string. -/
def readBasic : List Char → Option (List Char × List Char)
  | [] => none
  | '\\' :: 'x' :: a :: b :: rest => consRead (codePoint? [a, b]) (readBasic rest)
  | '\\' :: 'u' :: a :: b :: c :: d :: rest => consRead (codePoint? [a, b, c, d]) (readBasic rest)
  | '\\' :: 'U' :: a :: b :: c :: d :: e :: f :: g :: h :: rest =>
    consRead (codePoint? [a, b, c, d, e, f, g, h]) (readBasic rest)
  | '\\' :: c :: rest => consRead (escaped? c) (readBasic rest)
  | c :: rest =>
    if c = '"' then some ([], rest)
    else if isPlainChar c ∧ c ≠ '\\' then consRead (some c) (readBasic rest)
    else none

/-- Reads a literal string. -/
def readLiteral : List Char → Option (List Char × List Char)
  | [] => none
  | c :: rest =>
    if c = '\'' then some ([], rest)
    else if isPlainChar c then consRead (some c) (readLiteral rest)
    else none

/-! ## Strings over several lines -/

/-- Where a reader of a basic string over several lines stands. -/
inductive LineMode where
  /-- Within the text. -/
  | text
  /-- Behind a backslash that must be the last thing on its line. -/
  | continuing
  /-- Behind a line break that is taken away with the blanks after it. -/
  | skipping
deriving DecidableEq

/-- Reads a basic string over several lines. -/
def readMultilineBasic (mode : LineMode) : List Char → Option (List Char × List Char)
  | [] => none
  | '\r' :: '\n' :: rest =>
    if mode = .text then
      consRead (some '\r') (consRead (some '\n') (readMultilineBasic .text rest))
    else readMultilineBasic .skipping rest
  | '\n' :: rest =>
    if mode = .text then consRead (some '\n') (readMultilineBasic .text rest)
    else readMultilineBasic .skipping rest
  | c :: rest =>
    if (c = ' ' ∨ c = '\t') ∧ mode ≠ .text then readMultilineBasic mode rest
    else if mode = .continuing then none
    else
      match c, rest with
      | '"', '"' :: '"' :: '"' :: '"' :: after => some (['"', '"'], after)
      | '"', '"' :: '"' :: '"' :: after => some (['"'], after)
      | '"', '"' :: '"' :: after => some ([], after)
      | '\\', 'x' :: a :: b :: more =>
        consRead (codePoint? [a, b]) (readMultilineBasic .text more)
      | '\\', 'u' :: a :: b :: c :: d :: more =>
        consRead (codePoint? [a, b, c, d]) (readMultilineBasic .text more)
      | '\\', 'U' :: a :: b :: c :: d :: e :: f :: g :: h :: more =>
        consRead (codePoint? [a, b, c, d, e, f, g, h]) (readMultilineBasic .text more)
      | '\\', e :: more =>
        if e = ' ' ∨ e = '\t' ∨ e = '\n' ∨ e = '\r' then readMultilineBasic .continuing (e :: more)
        else consRead (escaped? e) (readMultilineBasic .text more)
      | '\\', [] => none
      | c, rest =>
        if isPlainChar c then consRead (some c) (readMultilineBasic .text rest) else none

/-- Reads a literal string over several lines. -/
def readMultilineLiteral : List Char → Option (List Char × List Char)
  | [] => none
  | '\'' :: '\'' :: '\'' :: '\'' :: '\'' :: after => some (['\'', '\''], after)
  | '\'' :: '\'' :: '\'' :: '\'' :: after => some (['\''], after)
  | '\'' :: '\'' :: '\'' :: after => some ([], after)
  | '\r' :: '\n' :: rest =>
    consRead (some '\r') (consRead (some '\n') (readMultilineLiteral rest))
  | c :: rest =>
    if isPlainChar c ∨ c = '\n' then consRead (some c) (readMultilineLiteral rest) else none

/-- The text without a line break at its beginning. -/
def withoutFirstBreak : List Char → List Char
  | '\n' :: rest => rest
  | '\r' :: '\n' :: rest => rest
  | s => s

/-! ## All strings -/

/-- Reads a string of any kind from its opening quotes on, if the text begins with one. -/
def readString : List Char → Option (List Char × List Char)
  | '"' :: '"' :: '"' :: rest => readMultilineBasic .text (withoutFirstBreak rest)
  | '\'' :: '\'' :: '\'' :: rest => readMultilineLiteral (withoutFirstBreak rest)
  | '"' :: rest => readBasic rest
  | '\'' :: rest => readLiteral rest
  | _ => none

end ConfigDocs.Toml
