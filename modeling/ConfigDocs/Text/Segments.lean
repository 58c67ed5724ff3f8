/-!
# Texts cut at a separator

Namespaces are cut at full stops and paths at slashes, and in both cases the pieces matter more
than the text.  `segments sep s` is the list of those pieces, empty ones included, so that nothing
is lost: joining them with the separator gives the text back (`intercalate_segments`), and no
piece holds a separator (`not_mem_of_mem_segments`).  There is always at least one piece, and
pieces of this kind are what the text they are joined to is cut into (`segments_intercalate`).

A qualified name may begin with the marker `global::`, which says that it is written in full and
is no part of the name; `withoutGlobal` takes one such marker away.
-/

set_option autoImplicit false

namespace ConfigDocs.Text

/-! ## Cutting -/

/-- The pieces of a text between the occurrences of a separator, in order. -/
def segments (sep : Char) : List Char → List (List Char)
  | [] => [[]]
  | c :: rest =>
    if c = sep then [] :: segments sep rest
    else
      match segments sep rest with
      | [] => [[c]]
      | piece :: pieces => (c :: piece) :: pieces

theorem segments_ne_nil (sep : Char) (s : List Char) : segments sep s ≠ [] := by
  cases s with
  | nil => simp [segments]
  | cons c rest =>
    rw [segments]
    split
    · simp
    · split <;> simp

theorem intercalate_segments (sep : Char) (s : List Char) :
    [sep].intercalate (segments sep s) = s := by
  induction s with
  | nil => rfl
  | cons c rest ih =>
    rw [segments]
    have hne := segments_ne_nil sep rest
    cases h : segments sep rest with
    | nil => exact absurd h hne
    | cons piece pieces =>
      rw [h] at ih
      split
      · rename_i hc
        subst hc
        rw [← ih]
        simp [List.intercalate, List.intersperse]
      · dsimp only
        rw [← ih]
        cases pieces <;> simp [List.intercalate, List.intersperse]

theorem not_mem_of_mem_segments {sep : Char} {s piece : List Char}
    (h : piece ∈ segments sep s) : sep ∉ piece := by
  induction s generalizing piece with
  | nil =>
    have hp : piece = [] := by simpa [segments] using h
    simp [hp]
  | cons c rest ih =>
    rw [segments] at h
    split at h
    · rcases List.mem_cons.1 h with rfl | h'
      · simp
      · exact ih h'
    · rename_i hc
      cases hs : segments sep rest with
      | nil => exact absurd hs (segments_ne_nil sep rest)
      | cons first more =>
        rw [hs] at h ih
        rcases List.mem_cons.1 h with rfl | h'
        · have := ih (List.mem_cons_self ..)
          simp only [List.mem_cons, not_or]
          exact ⟨fun e ↦ hc e.symm, this⟩
        · exact ih (List.mem_cons_of_mem _ h')

theorem segments_of_notMem {sep : Char} {s : List Char} (h : sep ∉ s) : segments sep s = [s] := by
  induction s with
  | nil => rfl
  | cons c rest ih =>
    rw [List.mem_cons, not_or] at h
    rw [segments, if_neg (Ne.symm h.1), ih h.2]

/-- A separator between two texts cuts there and nowhere else. -/
theorem segments_append (sep : Char) (s rest : List Char) :
    segments sep (s ++ sep :: rest) = segments sep s ++ segments sep rest := by
  induction s with
  | nil => simp [segments]
  | cons c s ih =>
    rw [List.cons_append, segments, segments, ih]
    split
    · rfl
    · cases hs : segments sep s with
      | nil => exact absurd hs (segments_ne_nil sep s)
      | cons piece pieces => rfl

theorem segments_append_cons {sep : Char} {s : List Char} (h : sep ∉ s) (rest : List Char) :
    segments sep (s ++ sep :: rest) = s :: segments sep rest := by
  rw [segments_append, segments_of_notMem h, List.singleton_append]

/-- Pieces with a separator before each, behind a first piece. -/
theorem segments_append_flatMap {sep : Char} {first : List Char} {pieces : List (List Char)}
    (hfirst : sep ∉ first) (h : ∀ piece ∈ pieces, sep ∉ piece) :
    segments sep (first ++ pieces.flatMap fun piece ↦ sep :: piece) = first :: pieces := by
  induction pieces generalizing first with
  | nil =>
    rw [List.flatMap_nil, List.append_nil]
    exact segments_of_notMem hfirst
  | cons piece pieces ih =>
    rw [List.forall_mem_cons] at h
    rw [List.flatMap_cons, List.cons_append, segments_append_cons hfirst, ih h.1 h.2]

/-- Pieces with a separator behind each. -/
theorem segments_flatMap_append {sep : Char} {pieces : List (List Char)}
    (h : ∀ piece ∈ pieces, sep ∉ piece) :
    segments sep (pieces.flatMap fun piece ↦ piece ++ [sep]) = pieces ++ [[]] := by
  induction pieces with
  | nil => rfl
  | cons piece pieces ih =>
    rw [List.forall_mem_cons] at h
    rw [List.flatMap_cons, List.append_assoc, List.singleton_append, segments_append_cons h.1,
      ih h.2, List.cons_append]

theorem intercalate_append {sep : Char} {pieces more : List (List Char)} (hpieces : pieces ≠ [])
    (hmore : more ≠ []) :
    [sep].intercalate (pieces ++ more) =
      [sep].intercalate pieces ++ sep :: [sep].intercalate more := by
  induction pieces with
  | nil => exact absurd rfl hpieces
  | cons piece pieces ih =>
    cases pieces with
    | nil =>
      rw [List.singleton_append, List.intercalate_cons_of_ne_nil hmore, List.intercalate_singleton,
        List.append_assoc, List.singleton_append]
    | cons next rest =>
      have hrest := ih (List.cons_ne_nil next rest)
      rw [List.cons_append] at hrest
      rw [List.cons_append, List.cons_append, List.intercalate_cons_cons, hrest,
        List.intercalate_cons_cons]
      simp only [List.append_assoc]

/-- Pieces without a separator in them are the pieces of the text they are joined to. -/
theorem segments_intercalate {sep : Char} {pieces : List (List Char)} (hne : pieces ≠ [])
    (h : ∀ piece ∈ pieces, sep ∉ piece) : segments sep ([sep].intercalate pieces) = pieces := by
  induction pieces with
  | nil => exact absurd rfl hne
  | cons piece pieces ih =>
    rw [List.forall_mem_cons] at h
    cases pieces with
    | nil => rw [List.intercalate_singleton, segments_of_notMem h.1]
    | cons next rest =>
      rw [List.intercalate_cons_cons, List.append_assoc, List.singleton_append,
        segments_append_cons h.1, ih (List.cons_ne_nil next rest) h.2]

/-- The first piece of a text begins as the text does, unless that is with a separator. -/
theorem segments_cons_of_ne {sep c : Char} (hc : c ≠ sep) (rest : List Char) :
    ∃ first more, segments sep (c :: rest) = (c :: first) :: more := by
  rw [segments, if_neg hc]
  cases hrest : segments sep rest with
  | nil => exact absurd hrest (segments_ne_nil sep rest)
  | cons piece pieces => exact ⟨piece, pieces, rfl⟩

theorem mem_of_mem_segments {sep c : Char} {s piece : List Char} (h : piece ∈ segments sep s)
    (hc : c ∈ piece) : c ∈ s := by
  induction s generalizing piece with
  | nil =>
    have hp : piece = [] := by simpa [segments] using h
    rw [hp] at hc
    cases hc
  | cons d rest ih =>
    rw [segments] at h
    split at h
    · rcases List.mem_cons.1 h with rfl | h'
      · cases hc
      · exact List.mem_cons_of_mem _ (ih h' hc)
    · cases hs : segments sep rest with
      | nil => exact absurd hs (segments_ne_nil sep rest)
      | cons first more =>
        rw [hs] at h ih
        rcases List.mem_cons.1 h with rfl | h'
        · rcases List.mem_cons.1 hc with rfl | hc'
          · exact List.mem_cons_self ..
          · exact List.mem_cons_of_mem _ (ih (List.mem_cons_self ..) hc')
        · exact List.mem_cons_of_mem _ (ih (List.mem_cons_of_mem _ h') hc)

/-- The piece after the last separator; the whole text if there is none. -/
def lastSegment (sep : Char) (s : List Char) : List Char :=
  (segments sep s).getLast (segments_ne_nil sep s)

/-! ## Qualified names -/

/-- The marker of a name that is written in full. -/
def globalMarker : List Char :=
  "global::".toList

/-- The text without one leading `global::`. -/
def withoutGlobal (s : List Char) : List Char :=
  (globalMarker.isPrefixOf? s).getD s

/-- The last segment of a dotted name. -/
def simpleName (name : String) : String :=
  String.ofList (lastSegment '.' name.toList)

/-- The name without one leading `global::`. -/
def unmarked (name : String) : String :=
  String.ofList (withoutGlobal name.toList)

end ConfigDocs.Text
