import Mathlib.Data.List.Basic
import ConfigDocs.Markup.Render
import ConfigDocs.Text.Segments

/-!
# Lines of cells

Markdown and AsciiDoc write a table line by line, and a row of cells is one line with bars between
the cells.  To read such a line back, it is cut at the bars that count.  In both formats a bar does
not count if a backslash guards it, and they differ only in whether a backslash can itself be
guarded by the one before it; so `Text.stretches` cuts a line for either of them, given how guarding
is passed on from one character to the next.

What is proved here is what the two formats have in common.  A text is cut nowhere if all its bars
are guarded (`Text.Closed`), a field comes back without the two spaces around it, and a folded text
stays on its line.
-/

set_option autoImplicit false

namespace ConfigDocs

namespace Text

/-! ## Cutting a line at its bars -/

section Stretches

variable (guards : Bool → Char → Bool)

/-- The stretches of a line between the bars that count, empty ones included.  The flag says whether
the next character is guarded, in which case it does not count as a bar. -/
def stretches : Bool → List Char → List (List Char)
  | _, [] => [[]]
  | guarded, c :: rest =>
    if c = '|' ∧ guarded = false then [] :: stretches false rest
    else (stretches (guards guarded c) rest).modifyHead (c :: ·)

/-- Every bar of the text is guarded. -/
def allGuarded : Bool → List Char → Bool
  | _, [] => true
  | guarded, c :: rest => (c != '|' || guarded) && allGuarded (guards guarded c) rest

/-- A text that is cut nowhere, and does not guard what follows it. -/
structure Closed (s : List Char) : Prop where
  /-- Every bar is guarded. -/
  inside : allGuarded guards false s = true
  /-- What follows is not. -/
  after : s.foldl guards false = false

variable {guards}

theorem stretches_ne_nil (guarded : Bool) (s : List Char) : stretches guards guarded s ≠ [] := by
  induction s generalizing guarded with
  | nil => simp [stretches]
  | cons c rest ih =>
    rw [stretches]
    split
    · simp
    · cases hrest : stretches guards (guards guarded c) rest with
      | nil => exact absurd hrest (ih _)
      | cons first more => simp

theorem stretches_append {guarded : Bool} {s : List Char}
    (h : allGuarded guards guarded s = true) (rest : List Char) :
    stretches guards guarded (s ++ rest) =
      (stretches guards (s.foldl guards guarded) rest).modifyHead (s ++ ·) := by
  induction s generalizing guarded with
  | nil =>
    cases hrest : stretches guards guarded rest with
    | nil => exact absurd hrest (stretches_ne_nil guarded rest)
    | cons first more => simp [hrest]
  | cons c s ih =>
    rw [allGuarded, Bool.and_eq_true] at h
    have hbar : ¬(c = '|' ∧ guarded = false) := by
      rintro ⟨rfl, rfl⟩
      simp at h
    rw [List.cons_append, stretches, if_neg hbar, ih h.2, List.foldl_cons,
      List.modifyHead_modifyHead]
    rfl

/-- A text that is cut nowhere is a stretch of its own. -/
theorem stretches_of_allGuarded {guarded : Bool} {s : List Char}
    (h : allGuarded guards guarded s = true) : stretches guards guarded s = [s] := by
  have happend := stretches_append h []
  simpa [stretches] using happend

/-- The first stretch of a line. -/
theorem Closed.stretches_append_bar {s : List Char} (h : Closed guards s) (rest : List Char) :
    stretches guards false (s ++ '|' :: rest) = s :: stretches guards false rest := by
  rw [stretches_append h.inside, h.after]
  simp [stretches]

/-- A line in which a bar closes each field. -/
theorem stretches_flatMap_bar {fields : List (List Char)}
    (h : ∀ field ∈ fields, Closed guards field) :
    stretches guards false (fields.flatMap fun field ↦ field ++ ['|']) = fields ++ [[]] := by
  induction fields with
  | nil => rfl
  | cons field fields ih =>
    rw [List.forall_mem_cons] at h
    rw [List.flatMap_cons, List.append_assoc, List.singleton_append, h.1.stretches_append_bar,
      ih h.2, List.cons_append]

theorem allGuarded_append (guarded : Bool) (s t : List Char) :
    allGuarded guards guarded (s ++ t) =
      (allGuarded guards guarded s && allGuarded guards (s.foldl guards guarded) t) := by
  induction s generalizing guarded with
  | nil => rfl
  | cons c s ih =>
    rw [List.cons_append, allGuarded, allGuarded, ih, List.foldl_cons, Bool.and_assoc]

theorem Closed.append {s t : List Char} (hs : Closed guards s) (ht : Closed guards t) :
    Closed guards (s ++ t) := by
  refine ⟨?_, ?_⟩
  · rw [allGuarded_append, hs.inside, hs.after, ht.inside]
    rfl
  · rw [List.foldl_append, hs.after, ht.after]

theorem Closed.flatMap {α : Type} {f : α → List Char} {xs : List α}
    (h : ∀ x ∈ xs, Closed guards (f x)) : Closed guards (xs.flatMap f) := by
  induction xs with
  | nil => exact ⟨rfl, rfl⟩
  | cons x xs ih =>
    rw [List.forall_mem_cons] at h
    exact h.1.append (ih h.2)

/-- A text without bars is cut nowhere. -/
theorem allGuarded_of_notMem {s : List Char} (h : '|' ∉ s) (guarded : Bool) :
    allGuarded guards guarded s = true := by
  induction s generalizing guarded with
  | nil => rfl
  | cons c s ih =>
    rw [List.mem_cons, not_or] at h
    have hc : (c != '|') = true := bne_iff_ne.2 (Ne.symm h.1)
    rw [allGuarded, hc, ih h.2]
    rfl

end Stretches

/-! ## Spaces around a field -/

/-- The text without one leading space. -/
def dropSpace : List Char → List Char
  | ' ' :: rest => rest
  | s => s

/-- The text without one space on each side, where there is one. -/
def unpad (s : List Char) : List Char :=
  (dropSpace (dropSpace s).reverse).reverse

theorem unpad_padded (s : List Char) : unpad (' ' :: (s ++ [' '])) = s := by
  simp [unpad, dropSpace]

/-! ## Texts on one line -/

/-- The text breaks no line. -/
structure OneLine (s : List Char) : Prop where
  /-- There is no carriage return in it. -/
  returns : '\r' ∉ s
  /-- There is no line feed in it. -/
  feeds : '\n' ∉ s

instance (s : List Char) : Decidable (OneLine s) :=
  decidable_of_iff ('\r' ∉ s ∧ '\n' ∉ s) ⟨fun h ↦ ⟨h.1, h.2⟩, fun h ↦ ⟨h.returns, h.feeds⟩⟩

theorem OneLine.append {s t : List Char} (hs : OneLine s) (ht : OneLine t) : OneLine (s ++ t) :=
  ⟨by simp [hs.returns, ht.returns], by simp [hs.feeds, ht.feeds]⟩

theorem OneLine.flatMap {α : Type} {f : α → List Char} {xs : List α}
    (h : ∀ x ∈ xs, OneLine (f x)) : OneLine (xs.flatMap f) := by
  induction xs with
  | nil =>
    rw [List.flatMap_nil]
    decide
  | cons x xs ih =>
    rw [List.forall_mem_cons] at h
    exact h.1.append (ih h.2)

theorem OneLine.of_subset {s t : List Char} (h : OneLine t) (hsub : s ⊆ t) : OneLine s :=
  ⟨fun hc ↦ h.returns (hsub hc), fun hc ↦ h.feeds (hsub hc)⟩

theorem oneLine_singleLine (s : List Char) : OneLine (singleLine s) := by
  fun_induction singleLine s with
  | case1 => decide
  | case2 rest ih => exact OneLine.append (s := [' ']) (by decide) ih
  | case3 c rest _ ih =>
    refine OneLine.append (s := [if c = '\r' ∨ c = '\n' then ' ' else c]) ?_ ih
    by_cases hc : c = '\r' ∨ c = '\n'
    · rw [if_pos hc]
      decide
    · rw [if_neg hc]
      rw [not_or] at hc
      exact ⟨by simpa using Ne.symm hc.1, by simpa using Ne.symm hc.2⟩

/-- The text on one line. -/
def foldLines (s : String) : String :=
  String.ofList (singleLine s.toList)

end Text

/-! ## Tables -/

/-- The cell with its text on one line. -/
def Cell.folded : Cell → Cell
  | .text s => .text (Text.foldLines s)
  | .link target s => .link target (Text.foldLines s)

/-- The table with its labels and the texts of its cells on one line each. -/
def Table.folded (t : Table) : Table where
  header := t.header.map Text.foldLines
  rows := t.rows.map fun cells ↦ cells.map Cell.folded

/-- None of the characters occurs in the target of the cell, if it is a link. -/
def Cell.TargetAvoids (chars : List Char) (c : Cell) : Prop :=
  ∀ target s, c = .link target s → ∀ d ∈ chars, d ∉ target.toList

@[simp] theorem Cell.targetAvoids_text (chars : List Char) (s : String) :
    (Cell.text s).TargetAvoids chars := by
  intro target s' h
  cases h

@[simp] theorem Cell.targetAvoids_link (chars : List Char) (target s : String) :
    (Cell.link target s).TargetAvoids chars ↔ ∀ d ∈ chars, d ∉ target.toList := by
  refine ⟨fun h ↦ h target s rfl, fun h target' s' heq ↦ ?_⟩
  obtain ⟨rfl, -⟩ := Cell.link.inj heq
  exact h

/-- None of the characters occurs in the target of a link of the table. -/
def Table.TargetsAvoid (chars : List Char) (t : Table) : Prop :=
  ∀ cells ∈ t.rows, ∀ c ∈ cells, c.TargetAvoids chars

/-- What is written for a part is this text, whatever has been written before. -/
def Format.Emits (format : Format) (part : Part) (text : List Char) : Prop :=
  ∀ b : Buffer, (b.visit format part).toList = b.toList ++ text

end ConfigDocs
