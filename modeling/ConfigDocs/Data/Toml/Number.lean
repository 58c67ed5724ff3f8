import ConfigDocs.Data.Basic

/-!
# Numbers of TOML

An integer is written in base ten, or without a sign in base two, eight or sixteen; any other number
has a fraction, an exponent or both.  Low lines may group the digits of a number
(`Toml.isGrouped`).

Whether a text is a number at all is seen from its first characters and its low lines, and what
number it is from all of it, but only when somebody looks.  So `Toml.integer?` and `Toml.float?` can
find a number that is unreadable: one that is out of range, one of a base with no digits, and one
grouped by low lines behind which come other characters than digits.  An integer is in range if it
fits into 128 bits with or without a sign, and any other number if 64-bit floating point has a finite
number for it.
-/

set_option autoImplicit false

namespace ConfigDocs.Toml

/-! ## Digits -/

/-- The value of a digit in a base, if it is one. -/
def digitIn? (base : Nat) (c : Char) : Option Nat :=
  let value :=
    if '0' ≤ c ∧ c ≤ '9' then c.toNat - 48
    else if 'a' ≤ c ∧ c ≤ 'f' then c.toNat - 87
    else if 'A' ≤ c ∧ c ≤ 'F' then c.toNat - 55
    else base
  if value < base then some value else none

/-- Whether a character is a digit in a base. -/
def isDigitIn (base : Nat) (c : Char) : Bool := (digitIn? base c).isSome

/-- The digits of a text that holds nothing else and is not empty. -/
def digits? (base : Nat) (s : List Char) : Option (List Nat) :=
  if s.isEmpty then none else s.mapM (digitIn? base)

/-- The number a list of digits stands for. -/
def valueOf (base : Nat) (digits : List Nat) : Nat :=
  digits.foldl (fun n d ↦ base * n + d) 0

/-- The number that decimal digits stand for. -/
def plainNumber? (s : List Char) : Option Nat :=
  (digits? 10 s).map (valueOf 10)

/-! ## Low lines -/

/-- Whether every low line stands behind a digit and before a digit.  The flag says that the text
comes behind a digit. -/
def isGroupedFrom (isDigit : Char → Bool) : Bool → List Char → Bool
  | _, [] => true
  | afterDigit, c :: rest =>
    if c = '_' then afterDigit && rest.head?.any isDigit && isGroupedFrom isDigit false rest
    else isGroupedFrom isDigit (isDigit c) rest

/-- Whether the low lines of a number group its digits: every one stands between two digits. -/
def isGrouped (isDigit : Char → Bool) (s : List Char) : Bool :=
  isGroupedFrom isDigit false s

/-- A text without its low lines. -/
def ungrouped (s : List Char) : List Char := s.filter (· ≠ '_')

/-! ## Signs -/

/-- A number without its sign. -/
def unsigned : List Char → List Char
  | '+' :: s => s
  | '-' :: s => s
  | s => s

/-- Whether a number has the sign of negative numbers. -/
def isNegative (s : List Char) : Bool := s.head? == some '-'

/-! ## Integers -/

/-- The integer of the given sign and digits. -/
def integerOf (base : Nat) (negative : Bool) (s : List Char) : Data :=
  match digits? base s with
  | none => .unreadable
  | some ds =>
    let n : Int := if negative then -(valueOf base ds : Int) else valueOf base ds
    if -Int.pow 2 127 ≤ n ∧ n < Int.pow 2 128 then .integer n else .unreadable

/-- An integer in a base that is not ten, behind the mark of the base. -/
def basedInteger? (base : Nat) (s : List Char) : Option Data :=
  if s.all (fun c ↦ c == '_' || isDigitIn base c) && isGrouped (isDigitIn base) s then
    some (integerOf base false (ungrouped s))
  else none

/-- Whether a character shows that a text is no integer: one of a fraction or an exponent, or a
space. -/
def isForeign (c : Char) : Bool := c == '.' || c == 'e' || c == 'E' || c == ' '

/-- Whether a text without a sign is an integer in base ten: digits alone, or digits behind which a
low line comes first.  It begins with a zero only if that is all of it. -/
def isDecimal (s : List Char) : Bool :=
  match s, s.dropWhile (isDigitIn 10) with
  | ['0'], _ => true
  | '0' :: _, _ => false
  | _, [] => !s.isEmpty
  | _, '_' :: rest => !rest.any isForeign
  | _, _ => false

/-- An integer in base ten.  A low line may stand between letters that are digits elsewhere, though
such a number is unreadable. -/
def decimalInteger? (s : List Char) : Option Data :=
  if isDecimal (unsigned s) && isGrouped (isDigitIn 16) s then
    some (integerOf 10 (isNegative s) (ungrouped (unsigned s)))
  else none

/-- An integer. -/
def integer? : List Char → Option Data
  | '0' :: 'x' :: digits => basedInteger? 16 digits
  | '0' :: 'o' :: digits => basedInteger? 8 digits
  | '0' :: 'b' :: digits => basedInteger? 2 digits
  | s => decimalInteger? s

/-! ## Numbers with a fraction or an exponent -/

/-- The least number too great for 64-bit floating point. -/
def floatBound : Nat := Nat.pow 2 1024 - Nat.pow 2 970

/-- Whether `digits` with the decimal point moved by `shift` places is below `floatBound`. -/
def isFinite (digits : List Nat) (shift : Int) : Bool :=
  let significant := digits.dropWhile (· = 0)
  let size : Int := significant.length + shift
  if significant.isEmpty || size < 300 then true
  else if 310 < size then false
  else if 0 ≤ shift then valueOf 10 significant * Nat.pow 10 shift.toNat < floatBound
  else valueOf 10 significant < floatBound * Nat.pow 10 (-shift).toNat

/-- Whether a character begins an exponent. -/
def isExponentMark (c : Char) : Bool := c == 'e' || c == 'E'

/-- The exponent of a number, from its mark on; zero if there is no exponent. -/
def exponent? : List Char → Option Int
  | [] => some 0
  | _ :: s =>
    (plainNumber? (unsigned s)).map fun (n : Nat) ↦ if isNegative s then -(n : Int) else n

/-- The digits of the fraction of a number, from the point on. -/
def fraction? : List Char → Option (List Nat)
  | [] => some []
  | _ :: s => digits? 10 s

/-- A number without a sign and low lines that has a fraction, an exponent or both. -/
def unsignedFloat? (s : List Char) : Option Data :=
  let mantissa := s.takeWhile (!isExponentMark ·)
  let exponent := s.dropWhile (!isExponentMark ·)
  let whole := mantissa.takeWhile (· ≠ '.')
  let fraction := mantissa.dropWhile (· ≠ '.')
  if fraction.isEmpty && exponent.isEmpty then none
  else
    match digits? 10 whole, fraction? fraction, exponent? exponent with
    | some ds, some fs, some e =>
      some (if isFinite (ds ++ fs) (e - fs.length) then .other else .unreadable)
    | _, _, _ => none

/-- Whether a number without a sign begins with a zero behind which its whole part goes on. -/
def hasLeadingZero : List Char → Bool
  | '0' :: c :: _ => c == '_' || isDigitIn 10 c
  | _ => false

/-- A number with a fraction or an exponent, or one of the words for what is no finite number. -/
def float? (s : List Char) : Option Data :=
  let number := unsigned s
  if number == "inf".toList || number == "nan".toList then some .other
  else if isGrouped (isDigitIn 10) s && !hasLeadingZero number then
    unsignedFloat? (ungrouped number)
  else none

end ConfigDocs.Toml
