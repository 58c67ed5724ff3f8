import Mathlib.Data.List.DropRight
import ConfigDocs.Proofs.PathComponents

/-!
# Parents, up to how paths are written

The parent of a path is cut out of its text, and idle pieces on both sides of the last name are
lost with that name: `docs//./index.md/.` has the parent `docs`.  Putting the name behind the parent
does not give the text back, but it gives the same path back (`Path.components_join_parent`), and
there is a parent whenever there is a last name (`Path.exists_parent_of_fileName?`).

Both come from one equation: the components of the path are those of its parent with the name behind
them.  A parent is put together from a head and some pieces, so this takes that its text is split
into the same head and the same pieces again.  That is not so of any head and pieces: behind no
head, a first piece that is idle would be taken for a head.  Those of a path and its parents are of
the right kind (`Path.Fits`), because they come from splitting a text.
-/

set_option autoImplicit false

namespace ConfigDocs

namespace Path

open ConfigDocs.Text (segments segments_cons_of_ne segments_intercalate not_mem_of_mem_segments)

/-! ## Putting heads and pieces together -/

/-- Pieces fit behind a head: none has a slash in it, and if nothing stands before the first one,
it is not idle. -/
structure Fits (head : Head) (pieces : List (List Char)) : Prop where
  /-- No piece has a slash in it. -/
  slash : ∀ piece ∈ pieces, '/' ∉ piece
  /-- Behind no head, the first piece is not idle. -/
  first : head = .plain → ∀ piece ∈ pieces.head?, isIdle piece = false

theorem Fits.of_append {head : Head} {pieces more : List (List Char)}
    (h : Fits head (pieces ++ more)) : Fits head pieces where
  slash piece hpiece := h.slash piece (List.mem_append_left more hpiece)
  first hhead piece hpiece := by
    refine h.first hhead piece ?_
    rw [List.head?_append, Option.mem_def.1 hpiece, Option.some_or]
    rfl

/-- A text that does not begin at the root is split by its first piece. -/
theorem split_of_segments {s first : List Char} {more : List (List Char)} (h : s.head? ≠ some '/')
    (hpieces : segments '/' s = first :: more) :
    split s = if first = ['.'] then (.dot, more) else (.plain, first :: more) := by
  cases s with
  | nil =>
    obtain ⟨rfl, rfl⟩ := List.cons.inj hpieces
    rfl
  | cons c rest =>
    rw [split_of_ne_slash (fun hc ↦ h (congrArg some hc)), hpieces]
    split
    · rename_i pieces heq
      obtain ⟨rfl, rfl⟩ := List.cons.inj heq
      rfl
    · rename_i hdot
      rw [if_neg]
      rintro rfl
      exact hdot more rfl

/-- What a text is split into fits, unless the text is empty. -/
theorem fits_split {s : List Char} (hs : s ≠ []) : Fits (split s).1 (split s).2 := by
  cases s with
  | nil => exact absurd rfl hs
  | cons c rest =>
    by_cases hc : c = '/'
    · subst hc
      exact ⟨fun piece hpiece ↦ not_mem_of_mem_segments hpiece, fun hhead ↦ by cases hhead⟩
    · obtain ⟨first, more, hpieces⟩ := segments_cons_of_ne hc rest
      have hslash : ∀ piece ∈ (c :: first) :: more, '/' ∉ piece :=
        fun piece hpiece ↦ not_mem_of_mem_segments (hpieces ▸ hpiece)
      have hhead : (c :: rest).head? ≠ some '/' := fun hhead ↦ hc (Option.some.inj hhead)
      rw [split_of_segments hhead hpieces]
      split
      · exact ⟨(List.forall_mem_cons.1 hslash).2, fun hhead ↦ by cases hhead⟩
      · -- only here nothing stands before the first piece, and it is neither empty nor a full stop
        rename_i hdot
        refine ⟨hslash, fun _ piece hpiece ↦ ?_⟩
        rw [← Option.some.inj hpiece]
        exact isIdle_eq_false_iff.2 ⟨List.cons_ne_nil c first, hdot⟩

theorem ne_nil_of_mem_split {s piece : List Char} (h : piece ∈ (split s).2) (hpiece : piece ≠ []) :
    s ≠ [] := by
  rintro rfl
  exact hpiece (List.mem_singleton.1 h)

theorem head?_intercalate {first : List Char} (hfirst : first ≠ []) (more : List (List Char)) :
    (['/'].intercalate (first :: more)).head? = first.head? := by
  obtain ⟨c, rest, rfl⟩ := List.exists_cons_of_ne_nil hfirst
  cases more with
  | nil => rfl
  | cons next more =>
    rw [List.intercalate_cons_cons]
    rfl

/-- Pieces that are joined are split into the same pieces again, of which the first one may make a
head. -/
theorem split_intercalate {first : List Char} {more : List (List Char)} (hfirst : first ≠ [])
    (h : ∀ piece ∈ first :: more, '/' ∉ piece) :
    split (['/'].intercalate (first :: more)) =
      if first = ['.'] then (.dot, more) else (.plain, first :: more) := by
  refine split_of_segments ?_ (segments_intercalate (List.cons_ne_nil first more) h)
  rw [head?_intercalate hfirst]
  exact fun hhead ↦ h first (List.mem_cons_self ..) (List.mem_of_head? hhead)

/-- **A head and pieces that fit are the components of the text they make**, but for idle
pieces. -/
theorem Fits.componentsOf_assemble {head : Head} {pieces : List (List Char)}
    (h : Fits head pieces) :
    componentsOf (assemble head pieces) = (head, pieces.filter fun piece ↦ !isIdle piece) := by
  cases head with
  | root =>
    cases pieces with
    | nil => decide
    | cons first more =>
      rw [componentsOf, assemble, split, segments_intercalate (List.cons_ne_nil first more) h.slash]
  | dot =>
    have hslash : ∀ piece ∈ ['.'] :: pieces, '/' ∉ piece :=
      List.forall_mem_cons.2 ⟨by decide, h.slash⟩
    rw [componentsOf, assemble, split_intercalate (List.cons_ne_nil '.' []) hslash, if_pos rfl]
  | plain =>
    cases pieces with
    | nil => rfl
    | cons first more =>
      obtain ⟨hnil, hdot⟩ := isIdle_eq_false_iff.1 (h.first rfl first rfl)
      rw [componentsOf, assemble, split_intercalate hnil h.slash, if_neg hdot]

/-! ## Idle pieces -/

theorem filter_eq_nil_of_idle {idle : List (List Char)} (h : ∀ piece ∈ idle, isIdle piece = true) :
    idle.filter (fun piece ↦ !isIdle piece) = [] :=
  List.filter_eq_nil_iff.2 fun piece hpiece ↦ by simp [h piece hpiece]

theorem filter_rdropWhile (pieces : List (List Char)) :
    (pieces.rdropWhile isIdle).filter (fun piece ↦ !isIdle piece) =
      pieces.filter fun piece ↦ !isIdle piece := by
  have hidle : (pieces.rtakeWhile isIdle).filter (fun piece ↦ !isIdle piece) = [] :=
    filter_eq_nil_of_idle fun piece hpiece ↦ List.mem_rtakeWhile_imp hpiece
  have hpieces : pieces.rdropWhile isIdle ++ pieces.rtakeWhile isIdle = pieces :=
    List.rdropWhile_append_rtakeWhile
  conv_rhs => rw [← hpieces, List.filter_append, hidle, List.append_nil]

/-- Idle pieces at the end have no part in the parents of a path. -/
theorem parentsOf_append {idle : List (List Char)} (h : ∀ piece ∈ idle, isIdle piece = true)
    (head : Head) (pieces : List (List Char)) :
    parentsOf head (idle ++ pieces) = parentsOf head pieces := by
  induction idle with
  | nil => rfl
  | cons piece idle ih =>
    rw [List.forall_mem_cons] at h
    rw [List.cons_append, parentsOf, if_pos h.1, ih h.2]

/-- The last piece that is not idle, as it is found from the end. -/
theorem exists_eq_append_of_dropWhile {pieces before : List (List Char)} {last : List Char}
    (h : pieces.reverse.dropWhile isIdle = last :: before) :
    isIdle last = false ∧
      ∃ idle, pieces = before.reverse ++ last :: idle ∧ ∀ piece ∈ idle, isIdle piece = true := by
  constructor
  · have hhead := List.head_dropWhile_not isIdle (l := pieces.reverse)
      (by rw [h]; exact List.cons_ne_nil last before)
    simpa only [h, List.head_cons] using hhead
  · refine ⟨(pieces.reverse.takeWhile isIdle).reverse, ?_, ?_⟩
    · calc pieces = (pieces.reverse.takeWhile isIdle ++ last :: before).reverse := by
            rw [← h, List.takeWhile_append_dropWhile, List.reverse_reverse]
        _ = before.reverse ++ last :: (pieces.reverse.takeWhile isIdle).reverse := by simp
    · exact fun piece hpiece ↦ List.mem_takeWhile_imp (List.mem_reverse.1 hpiece)

/-! ## The last name and what is before it -/

/-- A path ends in a name: that is one of its pieces, with some pieces before it and only idle ones
behind. -/
structure EndsIn (p : Path) (before : List (List Char)) (name : List Char)
    (idle : List (List Char)) : Prop where
  /-- These are the pieces of the path. -/
  pieces : (split p.text.toList).2 = before ++ name :: idle
  /-- The pieces behind the name are idle. -/
  idle : ∀ piece ∈ idle, isIdle piece = true
  /-- The name is that of a file. -/
  name : IsFileName name

/-- A path with a last name ends in it. -/
theorem exists_endsIn_of_fileName? {p : Path} {name : List Char} (h : p.fileName? = some name) :
    ∃ before idle, p.EndsIn before name idle := by
  rw [fileName?] at h
  split at h
  · cases h
  · rename_i last before hlast
    split at h
    · cases h
    · rename_i hdots
      obtain rfl := Option.some.inj h
      obtain ⟨hbusy, idle, hpieces, hidle⟩ := exists_eq_append_of_dropWhile hlast
      obtain ⟨hnil, hdot⟩ := isIdle_eq_false_iff.1 hbusy
      have hmem : last ∈ (split p.text.toList).2 := by
        rw [hpieces]
        exact List.mem_append_right _ (List.mem_cons_self ..)
      have hslash := (fits_split (ne_nil_of_mem_split hmem hnil)).slash last hmem
      exact ⟨before.reverse, idle, hpieces, hidle, hslash, hnil, hdot, hdots⟩

section EndsIn

variable {p : Path} {before : List (List Char)} {name : List Char} {idle : List (List Char)}

theorem EndsIn.components_eq (h : p.EndsIn before name idle) :
    p.components =
      ((split p.text.toList).1, (before.filter fun piece ↦ !isIdle piece) ++ [name]) := by
  rw [components, componentsOf, h.pieces, List.filter_append, List.filter_cons, h.name.isIdle,
    filter_eq_nil_of_idle h.idle]
  rfl

/-- The pieces of the parent are those before the name, less the idle ones at their end. -/
theorem EndsIn.parent?_eq (h : p.EndsIn before name idle) :
    p.parent? = some
      ⟨String.ofList (assemble (split p.text.toList).1 (before.rdropWhile isIdle))⟩ := by
  have hreverse : (split p.text.toList).2.reverse = idle.reverse ++ name :: before.reverse := by
    rw [h.pieces]
    simp
  have hidle : ∀ piece ∈ idle.reverse, isIdle piece = true :=
    fun piece hpiece ↦ h.idle piece (List.mem_reverse.1 hpiece)
  have hparents : p.parents = parentsOf (split p.text.toList).1 (name :: before.reverse) := by
    rw [← parentsOf_append hidle, ← hreverse]
    rfl
  rw [parent?, hparents, parentsOf, h.name.isIdle, if_neg Bool.false_ne_true]
  rfl

theorem EndsIn.fits (h : p.EndsIn before name idle) :
    Fits (split p.text.toList).1 (before.rdropWhile isIdle) := by
  have hmem : name ∈ (split p.text.toList).2 := by
    rw [h.pieces]
    exact List.mem_append_right _ (List.mem_cons_self ..)
  have hbefore : before.rdropWhile isIdle ++ before.rtakeWhile isIdle = before :=
    List.rdropWhile_append_rtakeWhile
  have hfits := fits_split (ne_nil_of_mem_split hmem h.name.nonempty)
  rw [h.pieces, ← hbefore, List.append_assoc] at hfits
  exact hfits.of_append

end EndsIn

/-- **A path with a last name has a parent**, and its components are those of the parent with that
name behind them. -/
theorem exists_parent_of_fileName? {p : Path} {name : List Char} (h : p.fileName? = some name) :
    ∃ parent, p.parent? = some parent ∧
      p.components = (parent.components.1, parent.components.2 ++ [name]) := by
  obtain ⟨before, idle, hends⟩ := exists_endsIn_of_fileName? h
  refine ⟨_, hends.parent?_eq, ?_⟩
  -- the text of the parent lacks idle pieces that the path has, but these are no components
  rw [hends.components_eq, components, String.toList_ofList, hends.fits.componentsOf_assemble,
    filter_rdropWhile]

/-- **The parent of a path and its last name make up the path.** -/
theorem components_join_parent {p home : Path} {name : List Char} (hname : p.fileName? = some name)
    (hhome : p.parent? = some home) :
    (home.join ⟨String.ofList name⟩).components = p.components := by
  obtain ⟨before, idle, hends⟩ := exists_endsIn_of_fileName? hname
  obtain ⟨parent, hparent, hcomponents⟩ := exists_parent_of_fileName? hname
  obtain rfl := Option.some.inj (hhome.symm.trans hparent)
  have hfile : IsFileName (String.ofList name).toList := by
    rw [String.toList_ofList]
    exact hends.name
  rw [components_join home hfile, String.toList_ofList, hcomponents]

end Path

end ConfigDocs
