import ConfigDocs.Proofs.WrittenForm

/-!
# The displayed form of a reference

In the documentation a reference is shown without namespaces, and a built-in type by its keyword.
What is shown is again a text of the grammar, and this file says for which reference: the one with
the same wrappers and arguments in which every name is replaced by the name it is displayed by
(`TypeRef.shortened`).  So displaying is writing a shorter reference
(`TypeRef.Spellable.displayChars_eq`), and everything else follows from what is known about the
written form.

Shortening forgets what it is about.  `Foo.int` is shown as `int`, which is how `System.Int32` is
shown, and `System.Int32<X>` loses its namespace without becoming a built-in type.  What matters is
that it never has to be done twice: the last segment of a name is displayed as it is, by chance as
a keyword or because it is none (`TypeRef.shortName_shortName`).
-/

set_option autoImplicit false

namespace ConfigDocs

namespace Builtin

/-- A keyword stands for the type it is the keyword of. -/
theorem ofName?_keyword (b : Builtin) : ofName? b.keyword = some b := by
  cases b <;> decide

/-- A name in one piece can only stand for a built-in type by its keyword. -/
theorem keyword_of_ofName? {name : String} {b : Builtin} (hdot : '.' ∉ name.toList)
    (hcolon : ':' ∉ name.toList) (h : ofName? name = some b) : b.keyword = name := by
  have hsystem : systemNamespace.isPrefixOf? name.toList = none := by
    rw [Option.eq_none_iff_forall_ne_some]
    intro rest hrest
    have hlist := List.isPrefixOf?_eq_some_iff_append_eq.1 hrest
    rw [← hlist] at hdot
    exact hdot (List.mem_append_left _ (by decide))
  simp only [ofName?, Text.withoutGlobal_of_notMem hcolon, hsystem] at h
  have hkeyword := List.find?_some h
  exact String.toList_inj.1 (eq_of_beq hkeyword)

end Builtin

namespace TypeRef

/-! ## Short names -/

/-- The name by which a reference without arguments is displayed: the keyword of a built-in type,
and the last segment of any other name. -/
def shortName (name : String) : String :=
  match Builtin.ofName? name with
  | some b => b.keyword
  | none => Text.simpleName name

theorem lastSegment_mem (s : List Char) : Text.lastSegment '.' s ∈ Text.segments '.' s :=
  List.getLast_mem _

theorem dot_notMem_simpleName (name : String) : '.' ∉ (Text.simpleName name).toList := by
  rw [Text.simpleName, String.toList_ofList]
  exact Text.not_mem_of_mem_segments (lastSegment_mem _)

/-- A name in one piece is its own last segment. -/
theorem simpleName_of_notMem {name : String} (h : '.' ∉ name.toList) :
    Text.simpleName name = name := by
  have hpieces := Text.segments_of_notMem h
  simp only [Text.simpleName, Text.lastSegment, hpieces, List.getLast_singleton,
    String.ofList_toList]

theorem isSegment_keyword (b : Builtin) : IsSegment b.keyword.toList := by
  have hchars : b.keyword.toList.all isSegmentChar = true := by cases b <;> decide
  exact ⟨by cases b <;> decide, List.all_eq_true.1 hchars⟩

theorem Dotted.isSegment_of_mem {s piece : List Char} (h : Dotted s)
    (hpiece : piece ∈ Text.segments '.' s) : IsSegment piece := by
  refine ⟨h.segments_ne_nil piece hpiece, fun c hc ↦ ?_⟩
  rcases h.chars c (Text.mem_of_mem_segments hpiece hc) with hsegment | rfl
  · exact hsegment
  · exact absurd hc (Text.not_mem_of_mem_segments hpiece)

section Names

variable {name : String} (h : Dotted name.toList)

include h

theorem isSegment_simpleName : IsSegment (Text.simpleName name).toList := by
  rw [Text.simpleName, String.toList_ofList]
  exact h.isSegment_of_mem (lastSegment_mem _)

theorem isSegment_shortName : IsSegment (shortName name).toList := by
  unfold shortName
  split
  · exact isSegment_keyword _
  · exact isSegment_simpleName h

theorem toList_simpleName :
    (Text.simpleName name).toList = Text.lastSegment '.' (Text.withoutGlobal name.toList) := by
  rw [Text.simpleName, String.toList_ofList, Text.withoutGlobal_of_notMem h.colon_notMem]

theorem toList_shortName : (shortName name).toList = displayedPlain name := by
  rw [shortName, displayedPlain]
  cases Builtin.ofName? name with
  | some b => rfl
  | none => exact toList_simpleName h

/-- **A short name is not shortened further.** -/
theorem shortName_shortName : shortName (shortName name) = shortName name := by
  rw [shortName.eq_def name]
  split
  · rename_i b _
    rw [shortName, Builtin.ofName?_keyword]
  · have hdot := dot_notMem_simpleName name
    have hcolon : ':' ∉ (Text.simpleName name).toList :=
      (isSegment_simpleName h).notMem (by decide)
    rw [shortName]
    split
    · rename_i b hb
      exact Builtin.keyword_of_ofName? hdot hcolon hb
    · exact simpleName_of_notMem hdot

end Names

/-! ## Short references -/

mutual

/-- The reference of the same shape with the names by which it is displayed.  Only a name without
arguments can be that of a built-in type. -/
def shortened : TypeRef → TypeRef
  | .named name [] => .named (shortName name) []
  | .named name (arg :: args) =>
    .named (Text.simpleName name) (arg.shortened :: shortenedEach args)
  | .array element => .array element.shortened
  | .nullable inner => .nullable inner.shortened
  | .unparsed text => .unparsed text

/-- `shortened` along a list of references. -/
def shortenedEach : List TypeRef → List TypeRef
  | [] => []
  | arg :: args => arg.shortened :: shortenedEach args

end

theorem shortenedEach_eq_map (args : List TypeRef) : shortenedEach args = args.map shortened := by
  induction args with
  | nil => rfl
  | cons arg args ih => rw [shortenedEach, ih, List.map_cons]

mutual

theorem nestUnder_shortened (k : Nat) : ∀ t : TypeRef, t.shortened.nestUnder k = t.nestUnder k
  | .named name [] => rfl
  | .named name (arg :: args) => by
    rw [shortened, nestUnder, nestUnder, nestMost, nestMost, nestUnder_shortened 0 arg,
      nestMost_shortenedEach args]
  | .array t => by rw [shortened, nestUnder, nestUnder, nestUnder_shortened (k + 1) t]
  | .nullable t => by rw [shortened, nestUnder, nestUnder, nestUnder_shortened (k + 1) t]
  | .unparsed text => rfl

theorem nestMost_shortenedEach : ∀ args : List TypeRef,
    nestMost (shortenedEach args) = nestMost args
  | [] => rfl
  | arg :: args => by
    rw [shortenedEach, nestMost, nestMost, nestUnder_shortened 0 arg, nestMost_shortenedEach args]

end

/-- Shortening leaves the nesting as it is. -/
theorem nest_shortened (t : TypeRef) : t.shortened.nest = t.nest :=
  nestUnder_shortened 0 t

namespace Spellable

theorem shortened {t : TypeRef} (h : t.Spellable) : t.shortened.Spellable := by
  induction h with
  | @named name args hname hargs ih =>
    cases args with
    | nil => exact .named (.segment (isSegment_shortName hname)) (by simp)
    | cons arg args =>
      refine .named (.segment (isSegment_simpleName hname)) ?_
      rw [← shortenedEach, shortenedEach_eq_map, List.forall_mem_map]
      exact ih
  | array _ ih => exact .array ih
  | nullable _ ih => exact .nullable ih

/-- Shortening is done when it has been done once. -/
theorem shortened_shortened {t : TypeRef} (h : t.Spellable) :
    t.shortened.shortened = t.shortened := by
  induction h with
  | @named name args hname hargs ih =>
    cases args with
    | nil => rw [TypeRef.shortened, TypeRef.shortened, shortName_shortName hname]
    | cons arg args =>
      have hsimple := simpleName_of_notMem (dot_notMem_simpleName name)
      rw [TypeRef.shortened, TypeRef.shortened, hsimple, ← shortenedEach, ← shortenedEach,
        shortenedEach_eq_map, shortenedEach_eq_map, List.map_map]
      exact congrArg _ (List.map_congr_left ih)
  | array _ ih => rw [TypeRef.shortened, TypeRef.shortened, ih]
  | nullable _ ih => rw [TypeRef.shortened, TypeRef.shortened, ih]

end Spellable

/-! ## Displaying is writing the short reference -/

theorem displayMore_eq {args : List TypeRef}
    (h : ∀ u ∈ args, u.displayChars = u.shortened.writtenChars) :
    displayMore args = writtenMore (shortenedEach args) := by
  induction args with
  | nil => rfl
  | cons arg args ih =>
    rw [List.forall_mem_cons] at h
    rw [displayMore, shortenedEach, writtenMore, h.1, ih h.2]

/-- **What is displayed is the written form of the short reference.** -/
theorem Spellable.displayChars_eq {t : TypeRef} (h : t.Spellable) :
    t.displayChars = t.shortened.writtenChars := by
  induction h with
  | @named name args hname hargs ih =>
    cases args with
    | nil => rw [displayChars, TypeRef.shortened, writtenChars, toList_shortName hname]
    | cons arg args =>
      rw [List.forall_mem_cons] at ih
      rw [displayChars, TypeRef.shortened, writtenChars, toList_simpleName hname, ih.1,
        displayMore_eq ih.2]
  | array _ ih => rw [displayChars, TypeRef.shortened, writtenChars, ih]
  | nullable _ ih => rw [displayChars, TypeRef.shortened, writtenChars, ih]

theorem Spellable.display_eq {t : TypeRef} (h : t.Spellable) : t.display = t.shortened.written := by
  rw [display, h.displayChars_eq, written]

/-- The short reference is displayed in the same way. -/
theorem Spellable.display_shortened {t : TypeRef} (h : t.Spellable) :
    t.shortened.display = t.display := by
  rw [h.shortened.display_eq, h.shortened_shortened, h.display_eq]

/-! ## Reading the displayed form -/

theorem parse_display {text : String} {t : TypeRef} (h : parse text = .ok t) :
    parse t.display = .ok t.shortened := by
  have hspellable := spellable_of_parse h
  have hnest : t.shortened.nest ≤ maxNesting := by
    rw [nest_shortened]
    exact (parse_eq_ok_iff.1 h).2
  rw [hspellable.display_eq]
  exact hspellable.shortened.parse_written hnest

/-- What a text stands for is displayed in the same way when what is displayed is taken for the
text. -/
theorem display_ofText_display (text : String) :
    (ofText (ofText text).display).display = (ofText text).display := by
  cases h : parse text with
  | ok t =>
    rw [ofText_of_parse h, ofText_of_parse (parse_display h)]
    exact (spellable_of_parse h).display_shortened
  | error fault =>
    have htext : (TypeRef.unparsed text).display = text := String.ofList_toList
    rw [ofText_of_fault h, htext, ofText_of_fault h, htext]

/-- **The displayed form is read as the short reference**, and it is stable: whatever a text stands
for, also if it stands for itself, what is displayed for it is displayed for the text that is
displayed. -/
theorem display_readBack (text : String) :
    (∀ t, parse text = .ok t → parse t.display = .ok t.shortened) ∧
      (ofText (ofText text).display).display = (ofText text).display :=
  ⟨fun _ h ↦ parse_display h, display_ofText_display text⟩

/-- A table of integers and of something else that is displayed as if it were one. -/
def integerTable : TypeRef :=
  .array (.named "System.Collections.Dictionary"
    [.named "System.Int32" [], .nullable (.named "Foo.int" [])])

theorem spellable_integerTable : integerTable.Spellable := by
  have htable : Dotted "System.Collections.Dictionary".toList :=
    dotted_of_isWellFormedName (List.all_eq_true.1 (by decide)) (by decide)
  have hkey : Dotted "System.Int32".toList :=
    dotted_of_isWellFormedName (List.all_eq_true.1 (by decide)) (by decide)
  have hvalue : Dotted "Foo.int".toList :=
    dotted_of_isWellFormedName (List.all_eq_true.1 (by decide)) (by decide)
  refine .array (.named htable ?_)
  rw [List.forall_mem_cons, List.forall_mem_singleton]
  exact ⟨.named hkey (by simp), .nullable (.named hvalue (by simp))⟩

/-- The key and the value of the table are different types, and both of them are displayed by the
same keyword. -/
theorem display_readBack_integerTable :
    parse "System.Collections.Dictionary<System.Int32, Foo.int?>[]" = .ok integerTable ∧
      integerTable.display = "Dictionary<int, int?>[]" ∧
      parse "Dictionary<int, int?>[]" =
        .ok (.array (.named "Dictionary" [.named "int" [], .nullable (.named "int" [])])) := by
  have hread : parse "System.Collections.Dictionary<System.Int32, Foo.int?>[]" = .ok integerTable :=
    spellable_integerTable.parse_written (by decide)
  have hback := (display_readBack _).1 integerTable hread
  exact ⟨hread, by decide, hback⟩

end TypeRef

end ConfigDocs
