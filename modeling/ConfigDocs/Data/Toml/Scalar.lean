import ConfigDocs.Data.Toml.Number

/-!
# Unquoted scalars of TOML

Truth values, numbers, dates and times are written without quotes and told apart by their characters
alone.  `Toml.scalar?` decides what such a text stands for, or that it stands for nothing; a date or
time that no calendar or clock shows stands for nothing.

A scalar reaches to the next character that has a meaning of its own, and over blanks if the text
goes on behind them, for a date and its time may have a space between them (`Toml.splitBare`).
-/

set_option autoImplicit false

namespace ConfigDocs.Toml

/-! ## Dates and times -/

/-- The number of days of a month. -/
def daysIn (year month : Nat) : Nat :=
  if month = 2 then
    if year % 4 = 0 ∧ (year % 100 ≠ 0 ∨ year % 400 = 0) then 29 else 28
  else if month = 4 ∨ month = 6 ∨ month = 9 ∨ month = 11 then 30
  else 31

/-- Whether eight digits are a day of the calendar. -/
def isDay (year month day : List Char) : Bool :=
  match plainNumber? year, plainNumber? month, plainNumber? day with
  | some year, some month, some day =>
    1 ≤ month && month ≤ 12 && 1 ≤ day && day ≤ daysIn year month
  | _, _, _ => false

/-- Whether two digits are a number no greater than the bound. -/
def isUpTo (bound : Nat) (a b : Char) : Bool :=
  match plainNumber? [a, b] with
  | some n => n ≤ bound
  | none => false

/-- What follows the fraction of a second. -/
def afterFraction? : List Char → Option (List Char)
  | '.' :: c :: rest =>
    if (digitIn? 10 c).isSome then some (rest.dropWhile fun c ↦ (digitIn? 10 c).isSome) else none
  | '.' :: [] => none
  | s => some s

/-- What follows a time of day; the seconds may be left out. -/
def afterTime? : List Char → Option (List Char)
  | a :: b :: ':' :: c :: d :: ':' :: e :: f :: rest =>
    if isUpTo 23 a b && isUpTo 59 c d && isUpTo 60 e f then afterFraction? rest else none
  | a :: b :: ':' :: c :: d :: rest => if isUpTo 23 a b && isUpTo 59 c d then some rest else none
  | _ => none

/-- Whether a text is an offset from universal time, or nothing. -/
def isOffset : List Char → Bool
  | [] => true
  | ['Z'] => true
  | ['z'] => true
  | [sign, a, b, ':', c, d] => (sign == '+' || sign == '-') && isUpTo 23 a b && isUpTo 59 c d
  | _ => false

/-- Whether a text is a time of day. -/
def isTime (s : List Char) : Bool :=
  afterTime? s == some []

/-- Whether a text is a date, alone or with a time and perhaps an offset. -/
def isDateTime : List Char → Bool
  | y :: y' :: y'' :: y''' :: '-' :: m :: m' :: '-' :: d :: d' :: rest =>
    isDay [y, y', y'', y'''] [m, m'] [d, d'] &&
      match rest with
      | [] => true
      | sep :: time =>
        (sep == 'T' || sep == 't' || sep == ' ') &&
          match afterTime? time with
          | some offset => isOffset offset
          | none => false
  | _ => false

/-! ## All scalars -/

/-- What a run of characters without quotes stands for. -/
def scalar? (s : List Char) : Option Data :=
  if s == "true".toList then some (.bool true)
  else if s == "false".toList then some (.bool false)
  else
    match integer? s, float? s with
    | some n, _ => some n
    | none, some x => some x
    | none, none => if isDateTime s || isTime s then some .other else none

/-! ## Where a scalar ends -/

/-- Whether a character may stand between the parts of a line. -/
def isSpace (c : Char) : Bool := c == ' ' || c == '\t'

/-- Whether a character has no meaning of its own between the parts of a line. -/
def isBareChar (c : Char) : Bool :=
  !(['=', ',', '[', ']', '\x7b', '\x7d', '#', ' ', '\t', '\r', '\n'].contains c)

/-- Whether a text goes on behind blanks: with anything but a string. -/
def goesOn : List Char → Bool
  | [] => false
  | c :: _ => c != '"' && c != '\''

/-- Splits a text behind the characters without a meaning of their own at its beginning.  Blanks
count among them if the text goes on behind them. -/
def splitBare : List Char → List Char × List Char
  | [] => ([], [])
  | c :: rest =>
    if isBareChar c || isSpace c then
      let (bare, after) := splitBare rest
      if isBareChar c || goesOn bare then (c :: bare, after) else ([], c :: rest)
    else ([], c :: rest)

/-- Reads a scalar without quotes. -/
def readScalar (s : List Char) : Option (Data × List Char) :=
  let (bare, after) := splitBare s
  (scalar? bare).map fun value ↦ (value, after)

end ConfigDocs.Toml
