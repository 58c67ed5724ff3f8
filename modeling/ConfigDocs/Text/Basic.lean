import ConfigDocs.Text.CharClass

/-!
# Operations on texts

What the rest of the program does to a text character by character.

* *Blanks.*  A blank is a character with the Unicode property `White_Space`.  Blanks separate words
  and nothing else, so a text read out of a comment is put into a normal form in which every run of
  blanks is one space and neither end is blank (`Text.normalizeBlanks`).  A text written into a
  table cell keeps its blanks but must not leave its line, which is the lighter `Text.singleLine`.
* *Letter case.*  Names of files are compared without regard to the case of the letters `A` to `Z`
  (`Text.toLowerAscii`); tags of a comment are compared by simple case folding (`Text.foldCase`),
  under which two characters beyond those letters also stand for one of them: the long s and the
  sign of the unit kelvin.
* *Replacement.*  `Text.replaceAll pattern by s` reads `s` from the left and writes `by` wherever
  `pattern` begins; what the pattern covered is passed over, so occurrences never overlap and the
  replacement is not read again.
-/

set_option autoImplicit false

namespace ConfigDocs.Text

/-! ## Blanks -/

/-- The characters with the property `White_Space`. -/
def whiteSpace : CharClass where
  intervals := [(0x9, 0xD), (0x20, 0x20), (0x85, 0x85), (0xA0, 0xA0), (0x1680, 0x1680),
    (0x2000, 0x200A), (0x2028, 0x2029), (0x202F, 0x202F), (0x205F, 0x205F), (0x3000, 0x3000)]

/-- Whether a character is a blank. -/
def isBlank (c : Char) : Bool :=
  whiteSpace.contains c

theorem isBlank_space : isBlank ' ' = true := rfl

/-! ## Trimming -/

/-- The text without the characters at its end that satisfy `p`. -/
def trimEnd (p : Char → Bool) (s : List Char) : List Char :=
  (s.reverse.dropWhile p).reverse

/-- The text without the blanks at its two ends. -/
def trim (s : List Char) : List Char :=
  trimEnd isBlank (s.dropWhile isBlank)

@[simp] theorem trimEnd_nil (p : Char → Bool) : trimEnd p [] = [] := rfl

theorem trimEnd_append_of_pos {p : Char → Bool} {c : Char} (hc : p c = true) (s : List Char) :
    trimEnd p (s ++ [c]) = trimEnd p s := by
  simp [trimEnd, hc]

theorem trimEnd_append_of_neg {p : Char → Bool} {c : Char} (hc : p c = false) (s : List Char) :
    trimEnd p (s ++ [c]) = s ++ [c] := by
  simp [trimEnd, hc]

/-- A text that is blank throughout leaves nothing, and any other keeps its beginning. -/
theorem trimEnd_cons (p : Char → Bool) (c : Char) (s : List Char) :
    trimEnd p (c :: s) = if trimEnd p s = [] ∧ p c = true then [] else c :: trimEnd p s := by
  rw [trimEnd, trimEnd, List.reverse_cons, List.dropWhile_append]
  cases hs : s.reverse.dropWhile p with
  | nil =>
    cases hc : p c with
    | true => simp [hc]
    | false => simp [hc]
  | cons d rest => simp

/-! ## One space for a run of blanks -/

/-- Writes one space for each run of blanks.  The flag says that the character before was a
blank, so that the run it belongs to is already written. -/
def squeeze : Bool → List Char → List Char
  | _, [] => []
  | afterBlank, c :: rest =>
    if isBlank c then
      if afterBlank then squeeze true rest else ' ' :: squeeze true rest
    else c :: squeeze false rest

/-- The text with one space for every run of blanks and no blank at either end. -/
def normalizeBlanks (s : List Char) : List Char :=
  trim (squeeze false s)

/-! ## Line breaks -/

/-- The text with one space for each line break: a carriage return, a line feed, or the two in
that order. -/
def singleLine : List Char → List Char
  | [] => []
  | '\r' :: '\n' :: rest => ' ' :: singleLine rest
  | c :: rest => (if c = '\r' ∨ c = '\n' then ' ' else c) :: singleLine rest

/-! ## Letter case -/

/-- The text with the letters `A` to `Z` in lower case. -/
def toLowerAscii (s : String) : String :=
  String.ofList (s.toList.map Char.toLower)

/-- Simple case folding, as far as its results are the letters `a` to `z`. -/
def foldCase (c : Char) : Char :=
  if c = '\u017F' then 's' else if c = '\u212A' then 'k' else c.toLower

theorem toLower_toLower (c : Char) : c.toLower.toLower = c.toLower := by
  by_cases h : 'A'.val ≤ c.val ∧ c.val ≤ 'Z'.val
  · have hval : c.toLower.val = c.val + 32 := congrArg Char.val (dif_pos h)
    have h1 : 65 ≤ c.val.toNat := UInt32.le_iff_toNat_le.1 h.1
    have h2 : c.val.toNat ≤ 90 := UInt32.le_iff_toNat_le.1 h.2
    have hnot : ¬('A'.val ≤ c.toLower.val ∧ c.toLower.val ≤ 'Z'.val) := by
      rintro ⟨-, h3⟩
      have h4 : c.toLower.val.toNat ≤ 90 := UInt32.le_iff_toNat_le.1 h3
      rw [hval, UInt32.toNat_add] at h4
      have : (32 : UInt32).toNat = 32 := rfl
      omega
    exact dif_neg hnot
  · have hc : c.toLower = c := dif_neg h
    rw [hc, hc]

@[simp] theorem toLowerAscii_toLowerAscii (s : String) :
    toLowerAscii (toLowerAscii s) = toLowerAscii s := by
  rw [toLowerAscii, toLowerAscii, String.toList_ofList, List.map_map]
  exact congrArg _ (List.map_congr_left fun c _ ↦ toLower_toLower c)

/-! ## Replacing every occurrence of a pattern -/

/-- `replaceAll`, with the number of characters still covered by the last occurrence. -/
def replaceFrom (pattern replacement : List Char) : Nat → List Char → List Char
  | _, [] => []
  | covered + 1, _ :: rest => replaceFrom pattern replacement covered rest
  | 0, c :: rest =>
    if pattern.isPrefixOf (c :: rest) then
      replacement ++ replaceFrom pattern replacement (pattern.length - 1) rest
    else c :: replaceFrom pattern replacement 0 rest

/-- The text with every occurrence of a non-empty pattern replaced, from the left. -/
def replaceAll (pattern replacement s : List Char) : List Char :=
  replaceFrom pattern replacement 0 s

end ConfigDocs.Text
