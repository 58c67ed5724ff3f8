import ConfigDocs.Data.Basic

/-!
# Reading JSON

The text is read in one pass by a machine with a stack: each lexeme is one step, and the stack
holds the lists and records that are still open.  So the depth of nesting is limited by nothing,
and reading ends because every lexeme takes at least one character.

A string is first read as a list of pieces, because an escape stands for a 16-bit unit and it may
take two of them to make a character.  A string in which a unit has lost its partner is still a
string, only not a text: it is well formed where nobody looks at it and refused where a text is
wanted.  Numbers are told apart only as far as the integers go, and the negative zero is not one of
them.
-/

set_option autoImplicit false

namespace ConfigDocs.Json

/-! ## Strings -/

/-- A piece of a string literal. -/
inductive Piece where
  /-- A character. -/
  | char (c : Char)
  /-- A 16-bit unit given by its number. -/
  | unit (n : Nat)

/-- The value of a hexadecimal digit. -/
def hexValue? (c : Char) : Option Nat :=
  if '0' ≤ c ∧ c ≤ '9' then some (c.toNat - 48)
  else if 'a' ≤ c ∧ c ≤ 'f' then some (c.toNat - 87)
  else if 'A' ≤ c ∧ c ≤ 'F' then some (c.toNat - 55)
  else none

/-- The number four hexadecimal digits stand for. -/
def unit? (a b c d : Char) : Option Nat := do
  return (((← hexValue? a) * 16 + (← hexValue? b)) * 16 + (← hexValue? c)) * 16 + (← hexValue? d)

/-- The character a letter stands for behind a backslash. -/
def escaped? (c : Char) : Option Char :=
  if c = '"' ∨ c = '\\' ∨ c = '/' then some c
  else if c = 'b' then some '\x08'
  else if c = 'f' then some '\x0c'
  else if c = 'n' then some '\n'
  else if c = 'r' then some '\r'
  else if c = 't' then some '\t'
  else none

/-- Reads a string literal behind its opening quote. -/
def readString : List Char → Option (List Piece × List Char)
  | [] => none
  | '\\' :: 'u' :: a :: b :: c :: d :: rest =>
    match unit? a b c d, readString rest with
    | some n, some (pieces, after) => some (.unit n :: pieces, after)
    | _, _ => none
  | '\\' :: c :: rest =>
    match escaped? c, readString rest with
    | some e, some (pieces, after) => some (.char e :: pieces, after)
    | _, _ => none
  | c :: rest =>
    if c = '"' then some ([], rest)
    else if c < ' ' ∨ c = '\\' then none
    else
      match readString rest with
      | some (pieces, after) => some (.char c :: pieces, after)
      | none => none

theorem readString_length_le {s after : List Char} {pieces : List Piece}
    (h : readString s = some (pieces, after)) : after.length ≤ s.length := by
  fun_induction readString s generalizing pieces after with
  | case1 => cases h
  | case2 a b c d rest n pieces' after' hrest _ ih =>
    cases h
    have := ih hrest
    simp only [List.length_cons]
    omega
  | case3 => cases h
  | case4 c rest _ e pieces' after' hrest _ ih =>
    cases h
    have := ih hrest
    simp only [List.length_cons]
    omega
  | case5 => cases h
  | case6 =>
    cases h
    exact Nat.le_succ _
  | case7 => cases h
  | case8 c rest _ _ _ _ pieces' after' hrest ih =>
    cases h
    exact Nat.le_succ_of_le (ih hrest)
  | case9 => cases h

/-- Whether a unit is the first of a pair. -/
def isLeading (n : Nat) : Bool := 0xD800 ≤ n && n < 0xDC00

/-- Whether a unit is the second of a pair. -/
def isTrailing (n : Nat) : Bool := 0xDC00 ≤ n && n < 0xE000

/-- The characters of a string, if every unit that needs a partner has one. -/
def characters? : List Piece → Option (List Char)
  | [] => some []
  | .char c :: pieces => (characters? pieces).map (c :: ·)
  | .unit n :: pieces =>
    if isLeading n then
      match pieces with
      | .unit m :: more =>
        if isTrailing m then
          (characters? more).map (Char.ofNat (0x10000 + (n - 0xD800) * 0x400 + (m - 0xDC00)) :: ·)
        else none
      | _ => none
    else if isTrailing n then none
    else (characters? pieces).map (Char.ofNat n :: ·)

/-! ## Numbers -/

/-- Whether a character is a decimal digit. -/
def isDigit (c : Char) : Bool := '0' ≤ c && c ≤ '9'

/-- The number a run of digits stands for. -/
def digitsValue (digits : List Char) : Nat :=
  digits.foldl (fun n c ↦ 10 * n + (c.toNat - 48)) 0

/-- What follows a non-empty run of digits. -/
def afterDigits? (s : List Char) : Option (List Char) :=
  match s with
  | c :: rest => if isDigit c then some (rest.dropWhile isDigit) else none
  | [] => none

/-- What follows a fraction, if there is one; absent if one is begun and not completed. -/
def afterFraction? : List Char → Option (List Char)
  | '.' :: rest => afterDigits? rest
  | s => some s

/-- What follows an exponent, if there is one; absent if one is begun and not completed. -/
def afterExponent? (s : List Char) : Option (List Char) :=
  match s with
  | c :: rest =>
    if c = 'e' ∨ c = 'E' then
      match rest with
      | '+' :: more => afterDigits? more
      | '-' :: more => afterDigits? more
      | _ => afterDigits? rest
    else some s
  | [] => some s

/-- What follows the fraction and the exponent of a number. -/
def afterIntegerPart? (s : List Char) : Option (List Char) :=
  (afterFraction? s).bind afterExponent?

/-- The digits of a whole part behind its first one; a zero is followed by none. -/
def moreDigits (first : Char) (rest : List Char) : List Char :=
  if first = '0' then [] else rest.takeWhile isDigit

/-- What follows the whole part of a number. -/
def afterWholePart (first : Char) (rest : List Char) : List Char :=
  if first = '0' then rest else rest.dropWhile isDigit

/-- The value of a number of which only the whole part is given. -/
def wholeNumber (negative : Bool) (n : Nat) : Data :=
  if negative then (if n = 0 then .other else .integer (-n)) else .integer n

/-- Reads a number from its first digit on. -/
def readUnsigned (negative : Bool) (first : Char) (rest : List Char) : Option (Data × List Char) :=
  match afterIntegerPart? (afterWholePart first rest) with
  | none => none
  | some after =>
    if after.length < (afterWholePart first rest).length then some (.other, after)
    else some (wholeNumber negative (digitsValue (first :: moreDigits first rest)), after)

theorem length_dropWhile_isDigit_le (s : List Char) : (s.dropWhile isDigit).length ≤ s.length :=
  (List.dropWhile_sublist isDigit).length_le

theorem afterDigits?_length_le {s after : List Char} (h : afterDigits? s = some after) :
    after.length ≤ s.length := by
  cases s with
  | nil => cases h
  | cons c rest =>
    rw [afterDigits?] at h
    split at h
    · cases h
      exact Nat.le_succ_of_le (length_dropWhile_isDigit_le rest)
    · cases h

theorem afterFraction?_length_le {s after : List Char} (h : afterFraction? s = some after) :
    after.length ≤ s.length := by
  unfold afterFraction? at h
  split at h
  · exact Nat.le_succ_of_le (afterDigits?_length_le h)
  · cases h
    exact Nat.le_refl _

theorem afterExponent?_length_le {s after : List Char} (h : afterExponent? s = some after) :
    after.length ≤ s.length := by
  unfold afterExponent? at h
  split at h
  · split at h
    · split at h
      · have := afterDigits?_length_le h
        simp only [List.length_cons]
        omega
      · have := afterDigits?_length_le h
        simp only [List.length_cons]
        omega
      · exact Nat.le_succ_of_le (afterDigits?_length_le h)
    · cases h
      exact Nat.le_refl _
  · cases h
    exact Nat.le_refl _

theorem readUnsigned_length_le {negative : Bool} {first : Char} {rest after : List Char}
    {value : Data} (h : readUnsigned negative first rest = some (value, after)) :
    after.length ≤ rest.length := by
  have htail : (afterWholePart first rest).length ≤ rest.length := by
    unfold afterWholePart
    split
    · exact Nat.le_refl _
    · exact length_dropWhile_isDigit_le rest
  unfold readUnsigned at h
  split at h
  · cases h
  · rename_i after' hafter
    have hle : after'.length ≤ (afterWholePart first rest).length := by
      obtain ⟨mid, hmid, hend⟩ := Option.bind_eq_some_iff.1 hafter
      exact Nat.le_trans (afterExponent?_length_le hend) (afterFraction?_length_le hmid)
    split at h <;> cases h <;> omega

/-! ## Lexemes -/

/-- A lexeme. -/
inductive Token where
  | openRecord
  | closeRecord
  | openList
  | closeList
  | colon
  | comma
  /-- A string, absent if it is no text. -/
  | string (text : Option String)
  /-- A number, a truth value or the absent value. -/
  | scalar (value : Data)

/-- The text of a string literal, if it has one. -/
def textOf (pieces : List Piece) : Option String :=
  (characters? pieces).map String.ofList

/-- The lexeme a character is by itself. -/
def punctuation? (c : Char) : Option Token :=
  if c = '\x7b' then some .openRecord
  else if c = '\x7d' then some .closeRecord
  else if c = '[' then some .openList
  else if c = ']' then some .closeList
  else if c = ':' then some .colon
  else if c = ',' then some .comma
  else none

/-- Reads one of the three words. -/
def readWord : Char → List Char → Option (Data × List Char)
  | 't', 'r' :: 'u' :: 'e' :: after => some (.bool true, after)
  | 'f', 'a' :: 'l' :: 's' :: 'e' :: after => some (.bool false, after)
  | 'n', 'u' :: 'l' :: 'l' :: after => some (.null, after)
  | _, _ => none

/-- Reads a number with its sign. -/
def readNegative : List Char → Option (Data × List Char)
  | c :: rest => if isDigit c then readUnsigned true c rest else none
  | [] => none

/-- Reads a number or a word. -/
def readScalar (first : Char) (rest : List Char) : Option (Data × List Char) :=
  if first = '-' then readNegative rest
  else if isDigit first then readUnsigned false first rest
  else readWord first rest

/-- Reads the lexeme that begins with the given character. -/
def lexeme (first : Char) (rest : List Char) : Option (Token × List Char) :=
  match punctuation? first with
  | some token => some (token, rest)
  | none =>
    if first = '"' then
      (readString rest).map fun (pieces, after) ↦ (.string (textOf pieces), after)
    else (readScalar first rest).map fun (value, after) ↦ (.scalar value, after)

theorem readWord_length_le {first : Char} {rest after : List Char} {value : Data}
    (h : readWord first rest = some (value, after)) : after.length ≤ rest.length := by
  unfold readWord at h
  split at h <;> cases h <;> simp only [List.length_cons] <;> omega

theorem readNegative_length_le {rest after : List Char} {value : Data}
    (h : readNegative rest = some (value, after)) : after.length ≤ rest.length := by
  unfold readNegative at h
  split at h
  · split at h
    · exact Nat.le_succ_of_le (readUnsigned_length_le h)
    · cases h
  · cases h

theorem readScalar_length_le {first : Char} {rest after : List Char} {value : Data}
    (h : readScalar first rest = some (value, after)) : after.length ≤ rest.length := by
  unfold readScalar at h
  split at h
  · exact readNegative_length_le h
  · split at h
    · exact readUnsigned_length_le h
    · exact readWord_length_le h

theorem lexeme_length_le {first : Char} {rest after : List Char} {token : Token}
    (h : lexeme first rest = some (token, after)) : after.length ≤ rest.length := by
  unfold lexeme at h
  split at h
  · cases h
    exact Nat.le_refl _
  · split at h
    · obtain ⟨⟨pieces, after'⟩, hread, heq⟩ := Option.map_eq_some_iff.1 h
      cases heq
      exact readString_length_le hread
    · obtain ⟨⟨value, after'⟩, hread, heq⟩ := Option.map_eq_some_iff.1 h
      cases heq
      exact readScalar_length_le hread

/-! ## The machine -/

/-- A list or record that is still open, with the latest part first. -/
inductive Frame where
  | list (items : List Data)
  | record (fields : List (Option String × Data)) (name : Option String)

/-- What the machine waits for, with the frames that are open. -/
inductive State where
  /-- A value. -/
  | value (stack : List Frame)
  /-- The first item of a list, or its end. -/
  | firstItem (stack : List Frame)
  /-- A comma, or the end of a list. -/
  | afterItem (items : List Data) (stack : List Frame)
  /-- The first name of a record, or its end. -/
  | firstName (stack : List Frame)
  /-- A further name of a record. -/
  | nextName (fields : List (Option String × Data)) (stack : List Frame)
  /-- The colon behind a name. -/
  | afterName (fields : List (Option String × Data)) (name : Option String) (stack : List Frame)
  /-- A comma, or the end of a record. -/
  | afterField (fields : List (Option String × Data)) (stack : List Frame)
  /-- Nothing: the value is complete. -/
  | done (value : Data)

namespace State

/-- Puts a complete value where it belongs. -/
def complete (value : Data) : List Frame → State
  | [] => .done value
  | .list items :: stack => .afterItem (value :: items) stack
  | .record fields name :: stack => .afterField ((name, value) :: fields) stack

/-- Begins a value with a lexeme. -/
def begin (stack : List Frame) : Token → Option State
  | .openRecord => some (.firstName stack)
  | .openList => some (.firstItem stack)
  | .string (some text) => some (complete (.text text) stack)
  | .string none => some (complete .other stack)
  | .scalar v => some (complete v stack)
  | _ => none

/-- One step of the machine; absent if the lexeme is out of place. -/
def step : State → Token → Option State
  | .value stack, token => begin stack token
  | .firstItem stack, .closeList => some (complete (.list []) stack)
  | .firstItem stack, token => begin (.list [] :: stack) token
  | .afterItem items stack, .comma => some (.value (.list items :: stack))
  | .afterItem items stack, .closeList => some (complete (.list items.reverse) stack)
  | .firstName stack, .closeRecord => some (complete (.record []) stack)
  | .firstName stack, .string name => some (.afterName [] name stack)
  | .nextName fields stack, .string name => some (.afterName fields name stack)
  | .afterName fields name stack, .colon => some (.value (.record fields name :: stack))
  | .afterField fields stack, .comma => some (.nextName fields stack)
  | .afterField fields stack, .closeRecord => some (complete (.record fields.reverse) stack)
  | _, _ => none

end State

/-- Whether a character may stand between lexemes. -/
def isSpace (c : Char) : Bool :=
  c == ' ' || c == '\n' || c == '\t' || c == '\r'

/-- Runs the machine along a text. -/
def run (state : State) (s : List Char) : Option State :=
  match s with
  | [] => some state
  | c :: rest =>
    if isSpace c then run state rest
    else
      match _h : lexeme c rest with
      | none => none
      | some (token, after) =>
        match state.step token with
        | none => none
        | some next => run next after
termination_by s.length
decreasing_by
  · simp
  · have := lexeme_length_le _h
    simp only [List.length_cons]
    omega

/-- The value a JSON text stands for. -/
def read (text : String) : Option Data :=
  match run (.value []) text.toList with
  | some (.done value) => some value
  | _ => none

/-- What JSON forgives: a list may not be too long, and behind a choice stands the absent value. -/
def dialect : Data.Dialect where
  boundedLists := true
  isUnit
    | .null => true
    | _ => false

end ConfigDocs.Json
