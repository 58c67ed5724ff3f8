import Mathlib.Data.List.TakeWhile
import ConfigDocs.Disk.Path

/-!
# Paths, up to how they are written

Two paths that differ only in doubled slashes, in a slash at the end or in full stops that lead
nowhere are the same path, since a path is its head and the pieces behind it that are not idle
(`Path.components`).  This file says what becomes of them when paths are joined: a relative path
adds its components (`Path.components_join_relative`), so the name of a file is one more, whatever
the path it is joined to (`Path.components_join`).

That takes a *file name* (`Path.IsFileName`).  A text with a slash in it would be taken apart, a
full stop or nothing would be idle, and a text that begins with a slash would replace the path.

The last name of a path can be read off its components as well (`Path.fileName?_eq`).
-/

set_option autoImplicit false

namespace ConfigDocs

namespace Path

open ConfigDocs.Text (segments segments_append segments_ne_nil segments_of_notMem)

/-! ## Heads and pieces -/

theorem split_of_ne_slash {c : Char} (hc : c ≠ '/') (s : List Char) :
    split (c :: s) =
      match segments '/' (c :: s) with
      | ['.'] :: pieces => (.dot, pieces)
      | pieces => (.plain, pieces) := by
  unfold split
  split
  · rename_i heq
    exact absurd (List.cons.inj heq).1 hc
  · rfl

/-- What is put behind a slash adds its pieces and leaves the head as it is. -/
theorem split_append {s : List Char} (hs : s ≠ []) (rest : List Char) :
    split (s ++ '/' :: rest) = ((split s).1, (split s).2 ++ segments '/' rest) := by
  cases s with
  | nil => exact absurd rfl hs
  | cons c s =>
    by_cases hc : c = '/'
    · subst hc
      rw [List.cons_append, split, split, segments_append]
    · have hcut : segments '/' (c :: (s ++ '/' :: rest)) =
          segments '/' (c :: s) ++ segments '/' rest := segments_append '/' (c :: s) rest
      rw [List.cons_append, split_of_ne_slash hc, split_of_ne_slash hc, hcut]
      match hpieces : segments '/' (c :: s) with
      | [] => exact absurd hpieces (segments_ne_nil '/' (c :: s))
      | piece :: pieces =>
        by_cases hpiece : piece = ['.']
        · subst hpiece
          rfl
        · simp [hpiece]

/-- The components of a path that is written in this way: its head, and the pieces behind it that
are not idle. -/
def componentsOf (s : List Char) : Head × List (List Char) :=
  ((split s).1, (split s).2.filter fun piece ↦ !isIdle piece)

/-- The components of a path. -/
def components (p : Path) : Head × List (List Char) :=
  componentsOf p.text.toList

/-! ## File names -/

/-- A text is the name of a file: it has no slash in it, and it is neither empty nor a step to the
same directory or upwards. -/
structure IsFileName (name : List Char) : Prop where
  /-- There is no slash in it. -/
  slash : '/' ∉ name
  /-- It is not empty. -/
  nonempty : name ≠ []
  /-- It is no step to the same directory. -/
  dot : name ≠ ['.']
  /-- It is no step upwards. -/
  dots : name ≠ ['.', '.']

theorem IsFileName.isIdle {name : List Char} (h : IsFileName name) : isIdle name = false :=
  isIdle_eq_false_iff.2 ⟨h.nonempty, h.dot⟩

theorem IsFileName.split_eq {name : List Char} (h : IsFileName name) :
    split name = (.plain, [name]) := by
  cases name with
  | nil => exact absurd rfl h.nonempty
  | cons c rest =>
    have hc : c ≠ '/' := fun hc ↦ h.slash (hc ▸ List.mem_cons_self ..)
    rw [split_of_ne_slash hc, segments_of_notMem h.slash]
    simp [h.dot]

theorem IsFileName.isAbsolute {name : String} (h : IsFileName name.toList) :
    isAbsolute ⟨name⟩ = false := by
  rw [Path.isAbsolute, beq_eq_false_iff_ne]
  exact fun hhead ↦ h.slash (List.mem_of_head? hhead)

theorem IsFileName.componentsOf {name : List Char} (h : IsFileName name) :
    componentsOf name = (.plain, [name]) := by
  simp only [Path.componentsOf, h.split_eq, List.filter_cons, h.isIdle, Bool.not_false, if_true,
    List.filter_nil]

/-! ## Joining -/

/-- A slash at the end makes no difference. -/
theorem componentsOf_append_slash {s : List Char} (hs : s ≠ []) :
    componentsOf (s ++ ['/']) = componentsOf s := by
  have hidle : ([[]] : List (List Char)).filter (fun piece ↦ !isIdle piece) = [] := by decide
  rw [componentsOf, split_append hs, List.filter_append, segments, hidle, List.append_nil]
  rfl

/-- The pieces of a text that does not begin with a slash are its components, but for idle ones. -/
theorem filter_segments {s : List Char} (h : s.head? ≠ some '/') :
    (segments '/' s).filter (fun piece ↦ !isIdle piece) = (componentsOf s).2 := by
  cases s with
  | nil => rfl
  | cons c s =>
    have hc : c ≠ '/' := fun hc ↦ h (congrArg some hc)
    rw [componentsOf, split_of_ne_slash hc]
    split
    · rename_i pieces hpieces
      have hidle : isIdle ['.'] = true := rfl
      rw [hpieces, List.filter_cons_of_neg (by simp [hidle])]
    · rfl

/-- What is put behind a slash adds its components. -/
theorem componentsOf_append (s : List Char) {rest : List Char} (h : rest.head? ≠ some '/') :
    componentsOf (s ++ '/' :: rest) =
      ((componentsOf (s ++ ['/'])).1, (componentsOf (s ++ ['/'])).2 ++ (componentsOf rest).2) := by
  cases s with
  | nil =>
    rw [List.nil_append, List.nil_append, ← filter_segments h]
    rfl
  | cons c s =>
    have hs : c :: s ≠ [] := List.cons_ne_nil c s
    rw [componentsOf_append_slash hs, ← filter_segments h]
    simp only [componentsOf, split_append hs, List.filter_append]

theorem toList_join_relative (base : Path) {p : Path} (h : p.isAbsolute = false) :
    (base.join p).text.toList =
      if base.text.toList = [] ∨ base.text.toList.getLast? = some '/' then
        base.text.toList ++ p.text.toList
      else base.text.toList ++ '/' :: p.text.toList := by
  have hempty : base.text.isEmpty = true ↔ base.text.toList = [] := by
    rw [String.isEmpty_iff, String.toList_eq_nil_iff]
  rw [join, h, if_neg Bool.false_ne_true]
  simp only [endsWithSlash, Bool.or_eq_true, beq_iff_eq, hempty]
  split
  · exact String.toList_append
  · rw [String.toList_append, String.toList_append, List.append_assoc]
    rfl

theorem toList_join (base : Path) {name : String} (h : IsFileName name.toList) :
    (base.join ⟨name⟩).text.toList =
      if base.text.toList = [] ∨ base.text.toList.getLast? = some '/' then
        base.text.toList ++ name.toList
      else base.text.toList ++ '/' :: name.toList :=
  toList_join_relative base h.isAbsolute

/-- **A relative path adds its components to what it is joined to**, and gives the head only to the
empty path. -/
theorem components_join_relative (base : Path) {p : Path} (h : p.isAbsolute = false) :
    (base.join p).components =
      (if base.text.toList = [] then p.components.1 else base.components.1,
        base.components.2 ++ p.components.2) := by
  have hhead : p.text.toList.head? ≠ some '/' := beq_eq_false_iff_ne.1 h
  rw [components, components, components, toList_join_relative base h]
  generalize base.text.toList = s
  split
  · rename_i hs
    rcases hs with rfl | hs
    · rw [List.nil_append, if_pos rfl]
      rfl
    · obtain ⟨s, rfl⟩ := List.getLast?_eq_some_iff.1 hs
      rw [List.append_assoc, if_neg (by simp)]
      exact componentsOf_append s hhead
  · rename_i hs
    rw [not_or] at hs
    rw [componentsOf_append s hhead, componentsOf_append_slash hs.1, if_neg hs.1]

/-- **Joined with the name of a file, a path has that name for one more component.** -/
theorem components_join (base : Path) {name : String} (h : IsFileName name.toList) :
    (base.join ⟨name⟩).components = (base.components.1, base.components.2 ++ [name.toList]) := by
  have hname : components ⟨name⟩ = (.plain, [name.toList]) := h.componentsOf
  rw [components_join_relative base h.isAbsolute, hname]
  split
  · rename_i hbase
    rw [components, hbase]
    rfl
  · rfl

/-! ## The last name -/

/-- The last name of a path is its last component, unless that is a step upwards. -/
theorem fileName?_eq (p : Path) :
    p.fileName? =
      p.components.2.getLast?.bind fun piece ↦ if piece = ['.', '.'] then none else some piece := by
  have hlast : p.components.2.getLast? =
      ((split p.text.toList).2.reverse.dropWhile isIdle).head? := by
    rw [components, componentsOf, List.getLast?_filter, List.find?_not_eq_head?_dropWhile]
  rw [hlast, fileName?]
  cases (split p.text.toList).2.reverse.dropWhile isIdle <;> rfl

end Path

end ConfigDocs
