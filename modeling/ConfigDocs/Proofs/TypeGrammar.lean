import Mathlib.Data.List.Basic
import Mathlib.Data.List.TakeWhile
import Mathlib.Tactic.Tauto
import ConfigDocs.Error

/-!
# The grammar of type references

A type reference is written by a small grammar, which this file states on its own, without a word
about reading: `TypeRef.TypeText s t` says that the text `s` is written for the reference `t`.  The
main result is that reading accepts exactly this grammar, up to a bound on the nesting
(`TypeRef.parse_eq_of_denotes` and `TypeRef.denotes_of_parse`), and that too much nesting is the
only thing that can be wrong with a text of the grammar.

The two sides are not of the same shape.  The grammar puts a wrapper behind a reference that is
complete without it, so wrappers nest to the left, and it says nothing about levels.  The reader
takes the name and the arguments first and then runs along the wrappers, and it pays for each of
them as it goes.  So what is proved of the reader is what it does with a text of the grammar *and
whatever follows it* (`TypeRef.run_append`): it comes to the wrappers that follow, with the levels
that are left, unless the reference takes more levels than there are.  Adding a wrapper is then one
step of the reader.
-/

set_option autoImplicit false

namespace ConfigDocs

/-! ## Characters

The grammar is read without looking back because the characters that end a part of it never belong
to the part: a blank is no character of a name, and none of the marks is either of the two. -/

namespace Text

/-- **No blank is alphanumeric.** -/
theorem isAlphanumeric_of_isBlank {c : Char} (h : isBlank c = true) : isAlphanumeric c = false := by
  have halphabetic : whiteSpace.isDisjoint alphabetic = true := by decide +kernel
  have hnumeric : whiteSpace.isDisjoint numeric = true := by decide +kernel
  rw [isAlphanumeric, CharClass.contains_eq_false_of_isDisjoint halphabetic h,
    CharClass.contains_eq_false_of_isDisjoint hnumeric h, Bool.or_false]

/-! ## The marker of a name -/

theorem withoutGlobal_append (s : List Char) : withoutGlobal (globalMarker ++ s) = s := by
  have h : globalMarker.isPrefixOf? (globalMarker ++ s) = some s :=
    List.isPrefixOf?_eq_some_iff_append_eq.2 rfl
  rw [withoutGlobal, h, Option.getD_some]

/-- Nothing but the marker is taken away. -/
theorem eq_or_eq_of_withoutGlobal (s : List Char) :
    s = withoutGlobal s ∨ s = globalMarker ++ withoutGlobal s := by
  rw [withoutGlobal]
  cases h : globalMarker.isPrefixOf? s with
  | none => exact Or.inl rfl
  | some rest => exact Or.inr (List.isPrefixOf?_eq_some_iff_append_eq.1 h).symm

theorem withoutGlobal_of_notMem {s : List Char} (h : ':' ∉ s) : withoutGlobal s = s := by
  rcases eq_or_eq_of_withoutGlobal s with hs | hs
  · exact hs.symm
  · rw [hs] at h
    exact absurd (List.mem_append_left _ (by decide)) h

end Text

namespace TypeRef

open ConfigDocs.Text (isBlank isAlphanumeric)

/-! ## The grammar -/

/-- Blanks, any number of them. -/
def Blanks (s : List Char) : Prop :=
  ∀ c ∈ s, isBlank c = true

/-- The characters a segment of a name is spelt with. -/
def isSegmentChar (c : Char) : Bool :=
  isAlphanumeric c || c == '_' || c == '\x60'

/-- A segment of a name. -/
structure IsSegment (s : List Char) : Prop where
  /-- It is not empty. -/
  ne_nil : s ≠ []
  /-- It is spelt with the characters of segments. -/
  chars : ∀ c ∈ s, isSegmentChar c = true

/-- One or more segments with full stops between them. -/
inductive Dotted : List Char → Prop
  | segment {s : List Char} (h : IsSegment s) : Dotted s
  | more {s rest : List Char} (h : IsSegment s) (hrest : Dotted rest) : Dotted (s ++ '.' :: rest)

/-- How a name is written: dotted, perhaps behind the marker `global::`, which is no part of it. -/
inductive NameText : List Char → String → Prop
  | plain {s : List Char} (h : Dotted s) : NameText s (String.ofList s)
  | marked {s : List Char} (h : Dotted s) : NameText (Text.globalMarker ++ s) (String.ofList s)

mutual

/-- How a reference is written.  Blanks may stand in front of every part. -/
inductive TypeText : List Char → TypeRef → Prop
  | plain {w n v : List Char} {name : String} (hw : Blanks w) (hn : NameText n name)
      (hv : Blanks v) : TypeText (w ++ n ++ v) (.named name [])
  | generic {w n v a : List Char} {name : String} {args : List TypeRef} (hw : Blanks w)
      (hn : NameText n name) (hv : Blanks v) (ha : ArgumentsText a args) :
      TypeText (w ++ n ++ v ++ '<' :: a) (.named name args)
  | nullable {s w : List Char} {t : TypeRef} (h : TypeText s t) (hw : Blanks w) :
      TypeText (s ++ w ++ ['?']) (.nullable t)
  | array {s w v : List Char} {t : TypeRef} (h : TypeText s t) (hw : Blanks w) (hv : Blanks v) :
      TypeText (s ++ w ++ '[' :: v ++ [']']) (.array t)

/-- How type arguments are written, from behind the bracket that opens them to the one that closes
them. -/
inductive ArgumentsText : List Char → List TypeRef → Prop
  | last {s w : List Char} {t : TypeRef} (h : TypeText s t) (hw : Blanks w) :
      ArgumentsText (s ++ w ++ ['>']) [t]
  | more {s w a : List Char} {t : TypeRef} {args : List TypeRef} (h : TypeText s t)
      (hw : Blanks w) (ha : ArgumentsText a args) :
      ArgumentsText (s ++ w ++ ',' :: a) (t :: args)

end

/-- A text denotes a reference: it is how the reference is written, with blanks behind it. -/
def Denotes (s : List Char) (t : TypeRef) : Prop :=
  ∃ body w, TypeText body t ∧ Blanks w ∧ s = body ++ w

/-! ## Names -/

theorem isNameChar_iff {c : Char} :
    isNameChar c = true ↔ isSegmentChar c = true ∨ c = '.' ∨ c = ':' := by
  simp only [isNameChar, isSegmentChar, Bool.or_eq_true, beq_iff_eq]
  tauto

theorem isNameChar_of_isBlank {c : Char} (h : isBlank c = true) : isNameChar c = false := by
  have hne : ∀ d : Char, isBlank d = false → c ≠ d := by
    rintro d hd rfl
    rw [h] at hd
    cases hd
  rw [Bool.eq_false_iff]
  intro hname
  simp only [isNameChar, Text.isAlphanumeric_of_isBlank h, Bool.false_or, Bool.or_eq_true,
    beq_iff_eq] at hname
  rcases hname with ((hc | hc) | hc) | hc
  · exact hne '_' rfl hc
  · exact hne '.' rfl hc
  · exact hne ':' rfl hc
  · exact hne '\x60' rfl hc

theorem IsSegment.notMem {s : List Char} (h : IsSegment s) {c : Char}
    (hc : isSegmentChar c = false) : c ∉ s := by
  intro hmem
  rw [h.chars c hmem] at hc
  cases hc

namespace Dotted

variable {s : List Char}

theorem ne_nil (h : Dotted s) : s ≠ [] := by
  cases h with
  | segment h => exact h.ne_nil
  | more h _ => exact List.append_ne_nil_of_left_ne_nil h.ne_nil _

theorem chars (h : Dotted s) : ∀ c ∈ s, isSegmentChar c = true ∨ c = '.' := by
  induction h with
  | segment h => exact fun c hc ↦ Or.inl (h.chars c hc)
  | more h _ ih =>
    intro c hc
    rcases List.mem_append.1 hc with hc | hc
    · exact Or.inl (h.chars c hc)
    · rcases List.mem_cons.1 hc with rfl | hc
      · exact Or.inr rfl
      · exact ih c hc

theorem isNameChar (h : Dotted s) : ∀ c ∈ s, isNameChar c = true := by
  intro c hc
  rw [isNameChar_iff]
  exact (h.chars c hc).imp_right Or.inl

theorem colon_notMem (h : Dotted s) : ':' ∉ s := by
  intro hmem
  rcases h.chars ':' hmem with hc | hc
  · revert hc
    decide
  · revert hc
    decide

theorem segments_ne_nil (h : Dotted s) : ∀ piece ∈ Text.segments '.' s, piece ≠ [] := by
  induction h with
  | segment h =>
    rw [Text.segments_of_notMem (h.notMem (by decide))]
    intro piece hpiece
    rw [List.mem_singleton.1 hpiece]
    exact h.ne_nil
  | more h _ ih =>
    rw [Text.segments_append_cons (h.notMem (by decide)), List.forall_mem_cons]
    exact ⟨h.ne_nil, ih⟩

theorem isWellFormedName (h : Dotted s) : isWellFormedName s = true := by
  simp only [TypeRef.isWellFormedName, Bool.and_eq_true, Bool.not_eq_true',
    List.isEmpty_eq_false_iff, List.contains_eq_mem, decide_eq_false_iff_not, List.all_eq_true]
  exact ⟨⟨h.ne_nil, h.colon_notMem⟩, h.segments_ne_nil⟩

end Dotted

theorem dotted_intercalate {pieces : List (List Char)} (hne : pieces ≠ [])
    (h : ∀ piece ∈ pieces, IsSegment piece) : Dotted (['.'].intercalate pieces) := by
  induction pieces with
  | nil => exact absurd rfl hne
  | cons piece pieces ih =>
    rw [List.forall_mem_cons] at h
    cases pieces with
    | nil => simpa using Dotted.segment h.1
    | cons next more =>
      have hmore := ih (List.cons_ne_nil _ _) h.2
      simpa using Dotted.more h.1 hmore

/-- **A well-formed name is dotted**, if it is spelt with the characters of names. -/
theorem dotted_of_isWellFormedName {s : List Char} (hs : ∀ c ∈ s, isNameChar c = true)
    (h : isWellFormedName s = true) : Dotted s := by
  simp only [isWellFormedName, Bool.and_eq_true, Bool.not_eq_true', List.isEmpty_eq_false_iff,
    List.contains_eq_mem, decide_eq_false_iff_not, List.all_eq_true] at h
  obtain ⟨⟨-, hcolon⟩, hpieces⟩ := h
  rw [← Text.intercalate_segments '.' s]
  refine dotted_intercalate (Text.segments_ne_nil '.' s) fun piece hpiece ↦ ?_
  refine ⟨hpieces piece hpiece, fun c hc ↦ ?_⟩
  have hmem : c ∈ s := Text.mem_of_mem_segments hpiece hc
  rcases isNameChar_iff.1 (hs c hmem) with hsegment | rfl | rfl
  · exact hsegment
  · exact absurd hc (Text.not_mem_of_mem_segments hpiece)
  · exact absurd hmem hcolon

theorem NameText.isNameChar {s : List Char} {name : String} (h : NameText s name) :
    ∀ c ∈ s, isNameChar c = true := by
  cases h with
  | plain h => exact h.isNameChar
  | marked h =>
    intro c hc
    rcases List.mem_append.1 hc with hc | hc
    · have hmarker : Text.globalMarker.all TypeRef.isNameChar = true := by decide
      exact List.all_eq_true.1 hmarker c hc
    · exact h.isNameChar c hc

theorem NameText.ne_nil {s : List Char} {name : String} (h : NameText s name) : s ≠ [] := by
  cases h with
  | plain h => exact h.ne_nil
  | marked h => exact List.append_ne_nil_of_right_ne_nil _ h.ne_nil

/-- A name is read as it is written, whatever follows it but more of the name. -/
theorem readName_append {s rest : List Char} {name : String} (h : NameText s name)
    (hrest : ∀ c ∈ rest.head?, isNameChar c = false) :
    readName (s ++ rest) = .ok (name, rest) := by
  have hstop : rest.takeWhile isNameChar = [] ∧ rest.dropWhile isNameChar = rest := by
    cases rest with
    | nil => exact ⟨rfl, rfl⟩
    | cons c rest =>
      have hc : isNameChar c = false := hrest c rfl
      simp [hc]
  rw [readName, List.takeWhile_append_of_pos h.isNameChar,
    List.dropWhile_append_of_pos h.isNameChar, hstop.1, hstop.2, List.append_nil]
  cases h with
  | plain h =>
    rw [Text.withoutGlobal_of_notMem h.colon_notMem]
    simp only [h.isWellFormedName, if_true]
  | marked h =>
    rw [Text.withoutGlobal_append]
    simp only [h.isWellFormedName, if_true]

/-- What is read as a name is written as one. -/
theorem exists_nameText_of_readName {s rest : List Char} {name : String}
    (h : readName s = .ok (name, rest)) : ∃ n, NameText n name ∧ s = n ++ rest := by
  unfold readName at h
  simp only at h
  split at h
  · rename_i hname
    cases h
    refine ⟨s.takeWhile isNameChar, ?_, List.takeWhile_append_dropWhile.symm⟩
    have hchars : ∀ c ∈ s.takeWhile isNameChar, isNameChar c = true :=
      fun c hc ↦ List.mem_takeWhile_imp hc
    rcases Text.eq_or_eq_of_withoutGlobal (s.takeWhile isNameChar) with heq | heq
    · rw [← heq] at hname ⊢
      exact .plain (dotted_of_isWellFormedName hchars hname)
    · -- rewriting with `heq` would not end: the text it is about occurs on both of its sides
      generalize Text.withoutGlobal (s.takeWhile isNameChar) = n at heq hname ⊢
      rw [heq] at hchars ⊢
      refine .marked (dotted_of_isWellFormedName (fun c hc ↦ ?_) hname)
      exact hchars c (List.mem_append_right _ hc)
  · cases h

/-! ## Levels -/

/-- The wrappers around a name. -/
def wrappers : TypeRef → Nat
  | .array t => t.wrappers + 1
  | .nullable t => t.wrappers + 1
  | .named _ _ => 0
  | .unparsed _ => 0

mutual

/-- The levels that a reference takes up under `k` wrappers: one for the name and one for each
wrapper, or one for the name and those of its arguments, whichever is more. -/
def nestUnder (k : Nat) : TypeRef → Nat
  | .named _ args => max (1 + k) (1 + nestMost args)
  | .array t => t.nestUnder (k + 1)
  | .nullable t => t.nestUnder (k + 1)
  | .unparsed _ => 1 + k

/-- The levels that the deepest of some references takes up. -/
def nestMost : List TypeRef → Nat
  | [] => 0
  | t :: ts => max (t.nestUnder 0) (nestMost ts)

end

/-- The levels that a reference takes up. -/
def nest (t : TypeRef) : Nat :=
  t.nestUnder 0

theorem nestUnder_eq (k : Nat) : ∀ t : TypeRef, t.nestUnder k = max t.nest (t.wrappers + 1 + k)
  | .named name args => by
    simp only [nest, nestUnder, wrappers]
    omega
  | .array t => by
    rw [nest, nestUnder, nestUnder, nestUnder_eq (k + 1) t, nestUnder_eq 1 t, wrappers]
    omega
  | .nullable t => by
    rw [nest, nestUnder, nestUnder, nestUnder_eq (k + 1) t, nestUnder_eq 1 t, wrappers]
    omega
  | .unparsed text => by
    simp only [nest, nestUnder, wrappers]
    omega

theorem nest_array (t : TypeRef) : (TypeRef.array t).nest = max t.nest (t.wrappers + 2) := by
  rw [nest, nestUnder, nestUnder_eq]

theorem nest_nullable (t : TypeRef) : (TypeRef.nullable t).nest = max t.nest (t.wrappers + 2) := by
  rw [nest, nestUnder, nestUnder_eq]

theorem nest_named (name : String) (args : List TypeRef) :
    (TypeRef.named name args).nest = 1 + nestMost args := by
  rw [nest, nestUnder]
  omega

theorem nestMost_cons (t : TypeRef) (ts : List TypeRef) :
    nestMost (t :: ts) = max t.nest (nestMost ts) := by
  rw [nestMost, nest]

/-- Goes on with one level less, if there is one. -/
def takeLevel {α : Type} (levels : Nat) (next : Nat → Except Fault α) : Except Fault α :=
  match levels with
  | 0 => .error .tooDeep
  | levels + 1 => next levels

/-- Goes on with the levels that are left when some number of them is taken, if there are as many
as are needed. -/
def takeLevels {α : Type} (levels needed taken : Nat) (next : Nat → Except Fault α) :
    Except Fault α :=
  if needed ≤ levels then next (levels - taken) else .error .tooDeep

theorem takeLevels_zero {α : Type} (needed taken : Nat) (next : Nat → Except Fault α) :
    takeLevels 0 (1 + needed) taken next = .error .tooDeep := by
  rw [takeLevels, if_neg (by omega)]

theorem takeLevels_succ {α : Type} (levels needed taken : Nat) (next : Nat → Except Fault α) :
    takeLevels (levels + 1) (1 + needed) (taken + 1) next =
      takeLevels levels needed taken next := by
  have hiff : 1 + needed ≤ levels + 1 ↔ needed ≤ levels := by omega
  simp only [takeLevels, hiff, Nat.add_sub_add_right]

theorem takeLevels_takeLevel {α : Type} (levels needed taken : Nat)
    (next : Nat → Except Fault α) :
    takeLevels levels needed taken (fun left ↦ takeLevel left next) =
      takeLevels levels (max needed (taken + 1)) (taken + 1) next := by
  simp only [takeLevels]
  by_cases hneeded : needed ≤ levels
  · rw [if_pos hneeded]
    cases hleft : levels - taken with
    | zero => rw [takeLevel, if_neg (by omega)]
    | succ left =>
      have hnext : levels - (taken + 1) = left := by omega
      rw [takeLevel, if_pos (by omega), hnext]
  · rw [if_neg hneeded, if_neg (by omega)]

/-! ## Steps of the reader -/

theorem Blanks.nil : Blanks [] := by
  simp [Blanks]

theorem Blanks.singleton {c : Char} (hc : isBlank c = true) : Blanks [c] := by
  simpa [Blanks] using hc

theorem Blanks.append {s s' : List Char} (h : Blanks s) (h' : Blanks s') : Blanks (s ++ s') := by
  intro c hc
  rcases List.mem_append.1 hc with hc | hc
  · exact h c hc
  · exact h' c hc

theorem dropWhile_append_of_blanks {w : List Char} (hw : Blanks w) (s : List Char) :
    (w ++ s).dropWhile isBlank = s.dropWhile isBlank :=
  List.dropWhile_append_of_pos hw

theorem head_append_of_blanks {w rest : List Char} (hw : Blanks w)
    (hrest : ∀ c ∈ rest.head?, isNameChar c = false) :
    ∀ c ∈ (w ++ rest).head?, isNameChar c = false := by
  cases w with
  | nil => exact hrest
  | cons d w =>
    intro c hc
    cases hc
    exact isNameChar_of_isBlank (hw d (List.mem_cons_self ..))

/-- What may follow a reference: blanks, and then nothing, a wrapper or the end of an argument. -/
inductive Follows : List Char → Prop
  | nil : Follows []
  | blank {c : Char} {rest : List Char} (hc : isBlank c = true) (h : Follows rest) :
      Follows (c :: rest)
  | mark {c : Char} {rest : List Char} (hc : c ∈ ['?', '[', ',', '>']) : Follows (c :: rest)

/-- The marks that may follow a reference are neither blank nor part of a name, and none of them
opens a list of arguments. -/
theorem mark_class : ∀ c ∈ ['?', '[', ',', '>'],
    isBlank c = false ∧ isNameChar c = false ∧ c ≠ '<' := by
  intro c hc
  simp only [List.mem_cons, List.not_mem_nil, or_false] at hc
  rcases hc with rfl | rfl | rfl | rfl <;> decide

theorem Follows.append {w rest : List Char} (hw : Blanks w) (h : Follows rest) :
    Follows (w ++ rest) := by
  induction w with
  | nil => exact h
  | cons c w ih =>
    rw [Blanks, List.forall_mem_cons] at hw
    exact .blank hw.1 (ih hw.2)

theorem Follows.head {rest : List Char} (h : Follows rest) :
    ∀ c ∈ rest.head?, isNameChar c = false := by
  intro c hc
  cases h with
  | nil => cases hc
  | blank hblank _ =>
    cases hc
    exact isNameChar_of_isBlank hblank
  | mark hmark =>
    cases hc
    exact (mark_class c hmark).2.1

section Wrappers

variable (levels : Nat) (t : TypeRef) (rest : List Char)

/-- One step along the wrappers. -/
theorem readWrappers_cons (c : Char) :
    readWrappers levels t (c :: rest) =
      if isBlank c then readWrappers levels t rest
      else if c = '?' then takeLevel levels fun left ↦ readWrappers left (.nullable t) rest
      else if c = '[' then takeLevel levels fun left ↦ readClosing left t rest
      else .ok (t, c :: rest) := by
  rw [readWrappers.eq_def]
  rfl

theorem readWrappers_blanks {w : List Char} (hw : Blanks w) :
    readWrappers levels t (w ++ rest) = readWrappers levels t rest := by
  induction w with
  | nil => rfl
  | cons c w ih =>
    rw [Blanks, List.forall_mem_cons] at hw
    rw [List.cons_append, readWrappers_cons, if_pos hw.1, ih hw.2]

theorem readClosing_blanks {w : List Char} (hw : Blanks w) :
    readClosing levels t (w ++ rest) = readClosing levels t rest := by
  induction w with
  | nil => rfl
  | cons c w ih =>
    rw [Blanks, List.forall_mem_cons] at hw
    rw [List.cons_append, readClosing, if_pos hw.1, ih hw.2]

theorem readWrappers_question :
    readWrappers levels t ('?' :: rest) =
      takeLevel levels fun left ↦ readWrappers left (.nullable t) rest := by
  rw [readWrappers_cons, if_neg (by decide), if_pos rfl]

theorem readWrappers_brackets {v : List Char} (hv : Blanks v) :
    readWrappers levels t ('[' :: (v ++ ']' :: rest)) =
      takeLevel levels fun left ↦ readWrappers left (.array t) rest := by
  have hclosing : ∀ left, readClosing left t (v ++ ']' :: rest) =
      readWrappers left (.array t) rest := by
    intro left
    rw [readClosing_blanks left t _ hv, readClosing, if_neg (by decide), if_pos rfl]
  rw [readWrappers_cons, if_neg (by decide), if_neg (by decide), if_pos rfl]
  simp only [hclosing]

/-- The wrappers end where an argument ends. -/
theorem readWrappers_stop {c : Char} (hc : c = ',' ∨ c = '>') :
    readWrappers levels t (c :: rest) = .ok (t, c :: rest) := by
  rcases hc with rfl | rfl
  · rw [readWrappers_cons, if_neg (by decide), if_neg (by decide), if_neg (by decide)]
  · rw [readWrappers_cons, if_neg (by decide), if_neg (by decide), if_neg (by decide)]

end Wrappers

section Arguments

variable {reader : Reader} {s rest : List Char} {arg : TypeRef}

theorem readArgs_error {fault : Fault} (h : reader.run s = .error fault) :
    readArgs reader s = .error fault := by
  rw [readArgs]
  split
  · rename_i fault' h'
    rw [h] at h'
    cases h'
    rfl
  · rename_i h'
    rw [h] at h'
    cases h'

theorem readArgs_last (h : reader.run s = .ok (arg, '>' :: rest)) :
    readArgs reader s = .ok ([arg], rest) := by
  rw [readArgs]
  split
  · rename_i h'
    rw [h] at h'
    cases h'
  · rename_i h'
    rw [h] at h'
    cases h'
    rfl

theorem readArgs_more (h : reader.run s = .ok (arg, ',' :: rest)) :
    readArgs reader s = (readArgs reader rest).map fun result ↦ (arg :: result.1, result.2) := by
  rw [readArgs]
  split
  · rename_i h'
    rw [h] at h'
    cases h'
  · rename_i h'
    rw [h] at h'
    cases h'
    have hdrop : (',' :: rest).dropWhile isBlank = ',' :: rest := rfl
    split
    · rename_i h'
      rw [hdrop] at h'
      cases h'
      cases readArgs reader rest <;> rfl
    · rename_i h'
      rw [hdrop] at h'
      cases h'
    · rename_i h' _
      exact absurd hdrop (h' rest)

end Arguments

section AfterName

variable (levels : Nat) (reader : Reader) (name : String)

theorem readAfterName_blanks {w : List Char} (hw : Blanks w) (s : List Char) :
    readAfterName levels reader name (w ++ s) = readAfterName levels reader name s := by
  rw [readAfterName, dropWhile_append_of_blanks hw, readAfterName]

/-- A name that is not followed by an opening bracket has no arguments. -/
theorem readAfterName_follows {rest : List Char} (h : Follows rest) :
    readAfterName levels reader name rest = readWrappers levels (.named name []) rest := by
  induction h with
  | nil => rfl
  | @blank c rest hc _ ih =>
    have hskip := readAfterName_blanks levels reader name (Blanks.singleton hc) rest
    rw [List.singleton_append] at hskip
    rw [hskip, ih, readWrappers_cons, if_pos hc]
  | @mark c rest hc =>
    obtain ⟨hblank, -, hopen⟩ := mark_class c hc
    rw [readAfterName, List.dropWhile_cons_of_neg (by simp [hblank])]
    split
    · rename_i heq
      exact absurd (List.cons.inj heq).1 hopen
    · rfl

theorem readAfterName_open (s : List Char) :
    readAfterName levels reader name ('<' :: s) =
      match readArgs reader s with
      | .error fault => .error fault
      | .ok (args, rest) => readWrappers levels (.named name args) rest := rfl

end AfterName

/-- A reference begins with its name, after blanks. -/
theorem readNested_append (levels : Nat) (reader : Reader) {w n rest : List Char} {name : String}
    (hw : Blanks w) (hn : NameText n name) (hrest : ∀ c ∈ rest.head?, isNameChar c = false) :
    readNested levels reader (w ++ n ++ rest) = readAfterName levels reader name rest := by
  have hstart : (w ++ n ++ rest).dropWhile isBlank = n ++ rest := by
    rw [List.append_assoc, dropWhile_append_of_blanks hw]
    obtain ⟨c, more, rfl⟩ := List.exists_cons_of_ne_nil hn.ne_nil
    have hc : isBlank c = false := by
      rw [Bool.eq_false_iff]
      intro hblank
      have hname := hn.isNameChar c (List.mem_cons_self ..)
      rw [isNameChar_of_isBlank hblank] at hname
      cases hname
    rw [List.cons_append, List.dropWhile_cons_of_neg (by simp [hc])]
  rw [readNested, hstart, readName_append hn hrest]

/-! ## What is written can be read -/

/-- The wrappers end where an argument or the text ends. -/
theorem readWrappers_blanks_stop (levels : Nat) (t : TypeRef) {w : List Char} (hw : Blanks w)
    (rest : List Char) (hrest : ∀ c ∈ rest.head?, c = ',' ∨ c = '>') :
    readWrappers levels t (w ++ rest) = .ok (t, rest) := by
  rw [readWrappers_blanks levels t rest hw]
  cases rest with
  | nil => rfl
  | cons c rest => exact readWrappers_stop levels t rest (hrest c rfl)

/-- The name takes a level, and leaves one less to what follows. -/
theorem run_named (levels : Nat) {w n more rest : List Char} {name : String}
    {args : List TypeRef} (hw : Blanks w) (hn : NameText n name)
    (hmore : ∀ c ∈ more.head?, isNameChar c = false)
    (hafter : ∀ left, readAfterName left (reader left) name more =
      takeLevels left (nestMost args) 0 fun left ↦ readWrappers left (.named name args) rest) :
    (reader levels).run (w ++ n ++ more) =
      takeLevels levels (TypeRef.named name args).nest ((TypeRef.named name args).wrappers + 1)
        fun left ↦ readWrappers left (.named name args) rest := by
  rw [nest_named, wrappers]
  cases levels with
  | zero => rw [takeLevels_zero, reader]
  | succ levels =>
    rw [takeLevels_succ, ← hafter levels]
    exact readNested_append levels (reader levels) hw hn hmore

mutual

/-- **Reading a written reference**, with something behind it: the reader comes to the wrappers
behind it with the levels that are left, if there are enough of them. -/
theorem run_append (levels : Nat) {s rest : List Char} {t : TypeRef} (hrest : Follows rest) :
    TypeText s t → (reader levels).run (s ++ rest) =
      takeLevels levels t.nest (t.wrappers + 1) fun left ↦ readWrappers left t rest
  | @TypeText.plain w n v name hw hn hv => by
    have hfollows : Follows (v ++ rest) := hrest.append hv
    rw [List.append_assoc]
    refine run_named levels hw hn hfollows.head fun left ↦ ?_
    rw [readAfterName_follows _ _ _ hfollows, readWrappers_blanks _ _ _ hv]
    rfl
  | @TypeText.generic w n v a name args hw hn hv ha => by
    rw [List.append_assoc, List.append_assoc, List.cons_append]
    refine run_named levels hw hn (head_append_of_blanks hv (by simp; decide)) fun left ↦ ?_
    rw [readAfterName_blanks _ _ _ hv, readAfterName_open, readArgs_append left rest ha]
    by_cases hfits : nestMost args ≤ left
    · simp only [takeLevels, if_pos hfits, Nat.sub_zero]
    · simp only [takeLevels, if_neg hfits]
  | @TypeText.nullable s w t h hw => by
    -- to the reference under it, this wrapper is part of what follows
    have hfollows : Follows (w ++ '?' :: rest) := (Follows.mark (by simp)).append hw
    rw [List.append_assoc, List.append_assoc, List.singleton_append, run_append levels hfollows h]
    simp only [readWrappers_blanks _ _ _ hw, readWrappers_question]
    rw [takeLevels_takeLevel, nest_nullable, wrappers]
  | @TypeText.array s w v t h hw hv => by
    have hfollows : Follows (w ++ '[' :: (v ++ ']' :: rest)) := (Follows.mark (by simp)).append hw
    have htext : s ++ w ++ '[' :: v ++ [']'] ++ rest = s ++ (w ++ '[' :: (v ++ ']' :: rest)) := by
      simp only [List.append_assoc, List.cons_append, List.nil_append]
    rw [htext, run_append levels hfollows h]
    simp only [readWrappers_blanks _ _ _ hw, readWrappers_brackets _ _ _ hv]
    rw [takeLevels_takeLevel, nest_array, wrappers]

/-- Reading written arguments, with something behind them. -/
theorem readArgs_append (levels : Nat) (rest : List Char) {s : List Char} {args : List TypeRef} :
    ArgumentsText s args → readArgs (reader levels) (s ++ rest) =
      takeLevels levels (nestMost args) 0 fun _ ↦ .ok (args, rest)
  | @ArgumentsText.last s w t h hw => by
    have hfollows : Follows (w ++ '>' :: rest) := (Follows.mark (by simp)).append hw
    have hrun := run_append levels hfollows h
    simp only [readWrappers_blanks_stop _ t hw ('>' :: rest) (by simp)] at hrun
    rw [List.append_assoc, List.append_assoc, List.singleton_append, nestMost_cons, nestMost,
      Nat.max_zero]
    by_cases hfits : t.nest ≤ levels
    · rw [takeLevels, if_pos hfits] at hrun ⊢
      exact readArgs_last hrun
    · rw [takeLevels, if_neg hfits] at hrun ⊢
      exact readArgs_error hrun
  | @ArgumentsText.more s w a t args h hw ha => by
    have hfollows : Follows (w ++ ',' :: (a ++ rest)) := (Follows.mark (by simp)).append hw
    have hrun := run_append levels hfollows h
    simp only [readWrappers_blanks_stop _ t hw (',' :: (a ++ rest)) (by simp)] at hrun
    rw [List.append_assoc, List.append_assoc, List.cons_append, nestMost_cons]
    by_cases hfits : t.nest ≤ levels
    · rw [takeLevels, if_pos hfits] at hrun
      have hmax : max t.nest (nestMost args) ≤ levels ↔ nestMost args ≤ levels := by omega
      rw [readArgs_more hrun, readArgs_append levels rest ha]
      simp only [takeLevels, hmax]
      split <;> rfl
    · rw [takeLevels, if_neg hfits] at hrun
      rw [takeLevels, if_neg (by omega)]
      exact readArgs_error hrun

end

/-- **A text of the grammar is read**, and its nesting is all that can be wrong with it. -/
theorem parse_eq_of_denotes {text : String} {t : TypeRef} (h : Denotes text.toList t) :
    parse text = if t.nest ≤ maxNesting then .ok t else .error .tooDeep := by
  obtain ⟨body, w, hbody, hw, htext⟩ := h
  have hfollows : Follows (w ++ []) := Follows.nil.append hw
  have hrun := run_append maxNesting hfollows hbody
  simp only [readWrappers_blanks_stop _ t hw [] (by simp)] at hrun
  rw [List.append_nil, ← htext] at hrun
  unfold parse
  rw [hrun]
  by_cases hfits : t.nest ≤ maxNesting
  · simp only [takeLevels, if_pos hfits]
  · simp only [takeLevels, if_neg hfits]

/-! ## What can be read is written -/

/-- A text begins with a written reference and blanks, and goes on with `rest`. -/
def Begins (s : List Char) (t : TypeRef) (rest : List Char) : Prop :=
  ∃ body w, TypeText body t ∧ Blanks w ∧ s = body ++ w ++ rest

theorem Begins.of_eq {s s' rest : List Char} {t : TypeRef} (h : Begins s t rest) (hs : s' = s) :
    Begins s' t rest :=
  hs ▸ h

mutual

/-- What is read along the wrappers behind a written reference is written. -/
theorem begins_of_readWrappers {u : TypeRef} {final : List Char} :
    ∀ {levels : Nat} {t : TypeRef} {s w : List Char} (rest : List Char), TypeText s t → Blanks w →
      readWrappers levels t rest = .ok (u, final) → Begins (s ++ w ++ rest) u final
  | _, _, s, w, [], ht, hw, h => by
    rw [readWrappers] at h
    cases h
    exact ⟨s, w, ht, hw, rfl⟩
  | levels, t, s, w, c :: rest, ht, hw, h => by
    rw [readWrappers_cons] at h
    split at h
    · rename_i hc
      -- the blank belongs to whatever comes next, so it is kept aside until that is known
      have hwc : Blanks (w ++ [c]) := hw.append (.singleton hc)
      exact (begins_of_readWrappers rest ht hwc h).of_eq (by simp)
    · split at h
      · rename_i hc
        subst hc
        cases levels with
        | zero => cases h
        | succ levels =>
          have hnullable : TypeText (s ++ w ++ ['?']) (.nullable t) := .nullable ht hw
          exact (begins_of_readWrappers rest hnullable .nil h).of_eq (by simp)
      · split at h
        · rename_i hc
          subst hc
          cases levels with
          | zero => cases h
          | succ levels => exact (begins_of_readClosing rest ht hw .nil h).of_eq (by simp)
        · cases h
          exact ⟨s, w, ht, hw, rfl⟩
termination_by structural _ _ _ _ rest => rest

/-- The same behind a bracket that is still open. -/
theorem begins_of_readClosing {u : TypeRef} {final : List Char} :
    ∀ {levels : Nat} {t : TypeRef} {s w v : List Char} (rest : List Char), TypeText s t →
      Blanks w → Blanks v → readClosing levels t rest = .ok (u, final) →
      Begins (s ++ w ++ '[' :: v ++ rest) u final
  | _, _, _, _, _, [], _, _, _, h => by
    rw [readClosing] at h
    cases h
  | levels, t, s, w, v, c :: rest, ht, hw, hv, h => by
    rw [readClosing] at h
    split at h
    · rename_i hc
      have hvc : Blanks (v ++ [c]) := hv.append (.singleton hc)
      exact (begins_of_readClosing rest ht hw hvc h).of_eq (by simp)
    · split at h
      · rename_i hc
        subst hc
        have harray : TypeText (s ++ w ++ '[' :: v ++ [']']) (.array t) := .array ht hw hv
        exact (begins_of_readWrappers rest harray .nil h).of_eq (by simp)
      · cases h
termination_by structural _ _ _ _ _ rest => rest

end

/-- A reader only reads what is written for the reference it gives. -/
def Reader.Sound (reader : Reader) : Prop :=
  ∀ {s rest : List Char} {t : TypeRef}, reader.run s = .ok (t, rest) → Begins s t rest

/-- A text is the blanks in front of it and the rest. -/
theorem exists_blanks_append (s : List Char) :
    ∃ w, Blanks w ∧ s = w ++ s.dropWhile isBlank :=
  ⟨s.takeWhile isBlank, fun _ hc ↦ List.mem_takeWhile_imp hc, List.takeWhile_append_dropWhile.symm⟩

theorem exists_argumentsText_of_readArgs {reader : Reader} (hreader : reader.Sound)
    {s rest : List Char} {args : List TypeRef} (h : readArgs reader s = .ok (args, rest)) :
    ∃ a, ArgumentsText a args ∧ s = a ++ rest := by
  fun_induction readArgs reader s generalizing rest args with
  | case1 => cases h
  | case2 => cases h
  | case3 s arg mid hrun more hmore args' final hargs ih =>
    cases h
    obtain ⟨body, w, hbody, hw, rfl⟩ := hreader hrun
    obtain ⟨w', hw', hmid⟩ := exists_blanks_append mid
    obtain ⟨a, ha, rfl⟩ := ih hargs
    refine ⟨body ++ (w ++ w') ++ ',' :: a, .more hbody (hw.append hw') ha, ?_⟩
    rw [hmid, hmore]
    simp
  | case4 s arg mid hrun more hmore =>
    cases h
    obtain ⟨body, w, hbody, hw, rfl⟩ := hreader hrun
    obtain ⟨w', hw', hmid⟩ := exists_blanks_append mid
    refine ⟨body ++ (w ++ w') ++ ['>'], .last hbody (hw.append hw'), ?_⟩
    rw [hmid, hmore]
    simp
  | case5 => cases h

theorem begins_of_readNested {levels : Nat} {reader : Reader} (hreader : reader.Sound)
    {s rest : List Char} {t : TypeRef} (h : readNested levels reader s = .ok (t, rest)) :
    Begins s t rest := by
  obtain ⟨w, hw, hs⟩ := exists_blanks_append s
  rw [readNested] at h
  split at h
  · cases h
  · rename_i name mid hname
    obtain ⟨n, hn, hmid⟩ := exists_nameText_of_readName hname
    obtain ⟨v, hv, hv'⟩ := exists_blanks_append mid
    rw [readAfterName] at h
    split at h
    · rename_i inner hinner
      split at h
      · cases h
      · rename_i args after hargs
        obtain ⟨a, ha, rfl⟩ := exists_argumentsText_of_readArgs hreader hargs
        have htext : TypeText (w ++ n ++ v ++ '<' :: a) (.named name args) :=
          .generic hw hn hv ha
        refine (begins_of_readWrappers after htext .nil h).of_eq ?_
        rw [hs, hmid, hv', hinner]
        simp
    · have htext : TypeText (w ++ n ++ v) (.named name []) := .plain hw hn hv
      refine (begins_of_readWrappers _ htext .nil h).of_eq ?_
      rw [hs, hmid, List.append_nil, List.append_assoc, List.append_assoc, ← hv']

theorem reader_sound : ∀ levels : Nat, (reader levels).Sound
  | 0 => fun h ↦ by cases h
  | levels + 1 => fun h ↦ begins_of_readNested (reader_sound levels) h

/-- **What is read is a text of the grammar.** -/
theorem denotes_of_parse {text : String} {t : TypeRef} (h : parse text = .ok t) :
    Denotes text.toList t := by
  unfold parse at h
  split at h
  · cases h
  · rename_i hrun
    cases h
    obtain ⟨body, w, hbody, hw, htext⟩ := reader_sound maxNesting hrun
    rw [List.append_nil] at htext
    exact ⟨body, w, hbody, hw, htext⟩
  · cases h

/-- Reading accepts the texts of the grammar that are not nested too deeply. -/
theorem parse_eq_ok_iff {text : String} {t : TypeRef} :
    parse text = .ok t ↔ Denotes text.toList t ∧ t.nest ≤ maxNesting := by
  constructor
  · intro h
    have hdenotes := denotes_of_parse h
    rw [parse_eq_of_denotes hdenotes] at h
    split at h
    · rename_i hfits
      exact ⟨hdenotes, hfits⟩
    · cases h
  · rintro ⟨hdenotes, hfits⟩
    rw [parse_eq_of_denotes hdenotes, if_pos hfits]

/-- **Reading accepts exactly the grammar.**  A text is read as a reference if and only if it
denotes that reference and takes no more than 64 levels.  Any other text is reported as it is, and
one that takes too many levels is reported for that reason. -/
theorem read_eq_ok_iff_denotes (text : String) :
    (∀ t, TypeRef.read text = .ok t ↔ Denotes text.toList t ∧ t.nest ≤ 64) ∧
      (∀ error, TypeRef.read text = .error error → ∃ fault, error = .invalidTypeRef text fault) ∧
      ∀ t, Denotes text.toList t → 64 < t.nest →
        ∃ fault, TypeRef.read text = .error (.invalidTypeRef text fault) ∧
          fault.message = "type nesting too deep" := by
  refine ⟨fun t ↦ ?_, fun error h ↦ ?_, fun t hdenotes hdeep ↦ ?_⟩
  · have hread : TypeRef.read text = .ok t ↔ parse text = .ok t := by
      rw [TypeRef.read]
      cases parse text with
      | error fault => simp [Except.mapError]
      | ok u => simp [Except.mapError]
    rw [hread]
    exact parse_eq_ok_iff
  · rw [TypeRef.read] at h
    cases hparse : parse text with
    | error fault =>
      rw [hparse] at h
      cases h
      exact ⟨fault, rfl⟩
    | ok u =>
      rw [hparse] at h
      cases h
  · have hexceeds : ¬t.nest ≤ maxNesting := Nat.not_le_of_lt hdeep
    have hparse : parse text = .error .tooDeep := by
      rw [parse_eq_of_denotes hdenotes, if_neg hexceeds]
    refine ⟨.tooDeep, ?_, rfl⟩
    rw [TypeRef.read, hparse]
    rfl

/-- The name `A` under a number of wrappers. -/
def wrapped : Nat → TypeRef
  | 0 => .named "A" []
  | k + 1 => .nullable (wrapped k)

/-- The name `A` with as many question marks behind it. -/
def wrappedText (k : Nat) : String :=
  String.ofList ('A' :: List.replicate k '?')

theorem typeText_wrapped (k : Nat) : TypeText ('A' :: List.replicate k '?') (wrapped k) := by
  induction k with
  | zero =>
    have hname : IsSegment ['A'] := ⟨by simp, List.all_eq_true.1 (by decide)⟩
    exact .plain .nil (.plain (.segment hname)) .nil
  | succ k ih =>
    have h := TypeText.nullable ih .nil
    rwa [List.append_nil, List.cons_append, ← List.replicate_succ'] at h

theorem denotes_wrapped (k : Nat) : Denotes (wrappedText k).toList (wrapped k) := by
  refine ⟨_, [], typeText_wrapped k, .nil, ?_⟩
  rw [wrappedText, String.toList_ofList, List.append_nil]

/-- A name takes one level, so 63 wrappers are the most it may have. -/
theorem read_eq_ok_iff_denotes_wrapped :
    TypeRef.read (wrappedText 63) = .ok (wrapped 63) ∧
      ∃ fault, TypeRef.read (wrappedText 64) = .error (.invalidTypeRef (wrappedText 64) fault) ∧
        fault.message = "type nesting too deep" :=
  ⟨((read_eq_ok_iff_denotes _).1 _).2 ⟨denotes_wrapped 63, by decide⟩,
    (read_eq_ok_iff_denotes _).2.2 _ (denotes_wrapped 64) (by decide)⟩

end TypeRef

end ConfigDocs
