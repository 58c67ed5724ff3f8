import ConfigDocs.Text.Basic
import ConfigDocs.Text.Word
import ConfigDocs.TypeRef.Basic

/-!
# Reading a type reference

The notation is read from the left in one pass, with no need to look back.  A reference is a name,
then perhaps a list of type arguments in angle brackets, then any number of wrappers `?` and `[]`;
blanks may stand before each of these parts but not within a name.

Nesting is bounded: every name takes one of `TypeRef.maxNesting` levels from what encloses it, and
so does every wrapper from the name it is applied to, counting on from the name itself.  The bound
is also what the recursion runs on: a reader for `n + 1` levels reads its arguments with the reader
for `n`.  Within one level the arguments are a loop, which ends because each of them takes at least
one character away; that fact travels with the reader (`TypeRef.Reader.shrinks`).

Reading fails at the first thing that is out of place, and `TypeRef.Fault` says what that was.
-/

set_option autoImplicit false

namespace ConfigDocs.TypeRef

open ConfigDocs.Text (isBlank isAlphanumeric)

/-- What is wrong with a text that is no type reference. -/
inductive Fault where
  /-- The nesting is deeper than `maxNesting`. -/
  | tooDeep
  /-- A name is missing or malformed. -/
  | expectedName
  /-- An opening bracket is not closed at once. -/
  | notOneDimensional
  /-- A list of type arguments is not continued or closed. -/
  | unterminatedArguments
  /-- Something follows the reference. -/
  | unexpected (c : Char)
deriving DecidableEq, Repr

/-- The wording of a fault. -/
def Fault.message : Fault → String
  | .tooDeep => "type nesting too deep"
  | .expectedName => "expected a type name"
  | .notOneDimensional => "only single-dimensional arrays are supported"
  | .unterminatedArguments => "unterminated type argument list"
  | .unexpected c => "unexpected '" ++ String.ofList [c] ++ "'"

/-- The levels of nesting a reference may have. -/
def maxNesting : Nat := 64

/-! ## Names -/

/-- The characters a name is taken from: the longest run of them is read before it is checked. -/
def isNameChar (c : Char) : Bool :=
  isAlphanumeric c || c == '_' || c == '.' || c == ':' || c == '\x60'

/-- A name, without its marker, is well formed if it has no colon and no empty segment. -/
def isWellFormedName (name : List Char) : Bool :=
  !name.isEmpty && !name.contains ':' && (Text.segments '.' name).all fun piece ↦ !piece.isEmpty

/-- Reads a name and drops one leading `global::` from it. -/
def readName (s : List Char) : Except Fault (String × List Char) :=
  let name := Text.withoutGlobal (s.takeWhile isNameChar)
  if isWellFormedName name then .ok (String.ofList name, s.dropWhile isNameChar)
  else .error .expectedName

theorem length_dropWhile_le (p : Char → Bool) (s : List Char) :
    (s.dropWhile p).length ≤ s.length :=
  (List.dropWhile_sublist p).length_le

theorem readName_shrinks {s rest : List Char} {name : String} (h : readName s = .ok (name, rest)) :
    rest.length < s.length := by
  unfold readName at h
  simp only at h
  split at h
  · rename_i hname
    cases h
    have hne : s.takeWhile isNameChar ≠ [] := by
      intro hnil
      rw [hnil] at hname
      revert hname
      decide
    have hlen := congrArg List.length (List.takeWhile_append_dropWhile (p := isNameChar) (l := s))
    rw [List.length_append] at hlen
    have := List.length_pos_iff.2 hne
    omega
  · cases h

/-! ## Wrappers -/

mutual

/-- Reads the wrappers of a reference, each of which takes one of the remaining levels. -/
def readWrappers (levels : Nat) (t : TypeRef) : List Char → Except Fault (TypeRef × List Char)
  | [] => .ok (t, [])
  | c :: rest =>
    if isBlank c then readWrappers levels t rest
    else if c = '?' then
      match levels with
      | 0 => .error .tooDeep
      | levels + 1 => readWrappers levels (.nullable t) rest
    else if c = '[' then
      match levels with
      | 0 => .error .tooDeep
      | levels + 1 => readClosing levels t rest
    else .ok (t, c :: rest)

/-- Reads the bracket that closes an array, and the wrappers after it. -/
def readClosing (levels : Nat) (t : TypeRef) : List Char → Except Fault (TypeRef × List Char)
  | [] => .error .notOneDimensional
  | c :: rest =>
    if isBlank c then readClosing levels t rest
    else if c = ']' then readWrappers levels (.array t) rest
    else .error .notOneDimensional

end

mutual

theorem readWrappers_length_le (levels : Nat) (t u : TypeRef) (rest : List Char) :
    ∀ s : List Char, readWrappers levels t s = .ok (u, rest) → rest.length ≤ s.length
  | [], h => by
    rw [readWrappers] at h
    cases h
    exact Nat.le_refl _
  | c :: s, h => by
    unfold readWrappers at h
    split at h
    · exact Nat.le_succ_of_le (readWrappers_length_le levels t u rest s h)
    · split at h
      · split at h
        · cases h
        · exact Nat.le_succ_of_le (readWrappers_length_le _ _ u rest s h)
      · split at h
        · split at h
          · cases h
          · exact Nat.le_succ_of_le (readClosing_length_le _ _ u rest s h)
        · cases h
          exact Nat.le_refl _

theorem readClosing_length_le (levels : Nat) (t u : TypeRef) (rest : List Char) :
    ∀ s : List Char, readClosing levels t s = .ok (u, rest) → rest.length ≤ s.length
  | [], h => by
    rw [readClosing] at h
    cases h
  | c :: s, h => by
    rw [readClosing] at h
    split at h
    · exact Nat.le_succ_of_le (readClosing_length_le levels t u rest s h)
    · split at h
      · exact Nat.le_succ_of_le (readWrappers_length_le _ _ u rest s h)
      · cases h

end

/-! ## References -/

/-- A way to read a reference off the front of a text that takes at least one character. -/
structure Reader where
  /-- The reference and what follows it. -/
  run : List Char → Except Fault (TypeRef × List Char)
  /-- What follows is shorter than the text. -/
  shrinks : ∀ {s rest : List Char} {t : TypeRef}, run s = .ok (t, rest) → rest.length < s.length

/-- Reads the type arguments behind an opening angle bracket, up to the closing one. -/
def readArgs (reader : Reader) (s : List Char) : Except Fault (List TypeRef × List Char) :=
  match _h : reader.run s with
  | .error fault => .error fault
  | .ok (arg, rest) =>
    match _hrest : rest.dropWhile isBlank with
    | ',' :: more =>
      match readArgs reader more with
      | .error fault => .error fault
      | .ok (args, final) => .ok (arg :: args, final)
    | '>' :: more => .ok ([arg], more)
    | _ => .error .unterminatedArguments
termination_by s.length
decreasing_by
  have h1 := reader.shrinks _h
  have h2 := length_dropWhile_le isBlank rest
  rw [_hrest, List.length_cons] at h2
  omega

theorem readArgs_shrinks (reader : Reader) (s : List Char) {rest : List Char}
    {args : List TypeRef} (h : readArgs reader s = .ok (args, rest)) : rest.length < s.length := by
  fun_induction readArgs reader s generalizing rest args with
  | case1 => cases h
  | case2 => cases h
  | case3 s arg mid hrun more hmore args' final hargs ih =>
    cases h
    have h1 := reader.shrinks hrun
    have h2 := length_dropWhile_le isBlank mid
    have h3 := ih hargs
    rw [hmore, List.length_cons] at h2
    omega
  | case4 s arg mid hrun more hmore =>
    cases h
    have h1 := reader.shrinks hrun
    have h2 := length_dropWhile_le isBlank mid
    rw [hmore, List.length_cons] at h2
    omega
  | case5 => cases h

/-- Reads what follows a name: its type arguments if there are any, and the wrappers. -/
def readAfterName (levels : Nat) (reader : Reader) (name : String) (s : List Char) :
    Except Fault (TypeRef × List Char) :=
  match s.dropWhile isBlank with
  | '<' :: inner =>
    match readArgs reader inner with
    | .error fault => .error fault
    | .ok (args, rest) => readWrappers levels (.named name args) rest
  | other => readWrappers levels (.named name []) other

theorem readAfterName_length_le {levels : Nat} {reader : Reader} {name : String}
    {s rest : List Char} {t : TypeRef} (h : readAfterName levels reader name s = .ok (t, rest)) :
    rest.length ≤ s.length := by
  unfold readAfterName at h
  have hle := length_dropWhile_le isBlank s
  split at h
  · rename_i inner hs
    rw [hs, List.length_cons] at hle
    split at h
    · cases h
    · rename_i args mid hargs
      have h1 := readArgs_shrinks reader inner hargs
      have h2 := readWrappers_length_le _ _ _ _ _ h
      omega
  · exact Nat.le_trans (readWrappers_length_le _ _ _ _ _ h) hle

/-- Reads a reference that takes one level and leaves `levels` to what is nested in it. -/
def readNested (levels : Nat) (reader : Reader) (s : List Char) :
    Except Fault (TypeRef × List Char) :=
  match readName (s.dropWhile isBlank) with
  | .error fault => .error fault
  | .ok (name, rest) => readAfterName levels reader name rest

theorem readNested_shrinks {levels : Nat} {reader : Reader} {s rest : List Char} {t : TypeRef}
    (h : readNested levels reader s = .ok (t, rest)) : rest.length < s.length := by
  unfold readNested at h
  split at h
  · cases h
  · rename_i name mid hname
    have h1 := readName_shrinks hname
    have h2 := length_dropWhile_le isBlank s
    have h3 := readAfterName_length_le h
    omega

/-- The reader for references of at most the given number of levels. -/
def reader : Nat → Reader
  | 0 => ⟨fun _ ↦ .error .tooDeep, by simp⟩
  | levels + 1 => ⟨readNested levels (reader levels), readNested_shrinks⟩

/-- Reads a text that is a type reference and nothing else. -/
def parse (text : String) : Except Fault TypeRef :=
  match (reader maxNesting).run text.toList with
  | .error fault => .error fault
  | .ok (t, []) => .ok t
  | .ok (_, c :: _) => .error (.unexpected c)

/-- The reference a text stands for; a text that cannot be read stands for itself. -/
def ofText (text : String) : TypeRef :=
  match parse text with
  | .ok t => t
  | .error _ => .unparsed text

end ConfigDocs.TypeRef
