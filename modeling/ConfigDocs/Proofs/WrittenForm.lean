import ConfigDocs.Catalog.Resolution
import ConfigDocs.Proofs.TypeGrammar

/-!
# The written form of a reference

A model file is written back with its type references in full, and so is every part of a reference
that is looked at on its own.  Reading such a text has to give back the reference it was made from.
It does, for every reference that has been read: the written form drops the marker `global::` and
any blanks, but it is a text of the grammar for the same reference, and the levels it takes are
counted on the reference and not on the text.

Not every value of `TypeRef` can be written so, because a name could be any string.  The references
that can are the *spellable* ones, whose names are dotted throughout (`TypeRef.Spellable`).  Reading
gives only those, and the parts of a spellable reference are spellable and take no more levels.
-/

set_option autoImplicit false

namespace ConfigDocs

namespace TypeRef

open ConfigDocs.Text (isBlank)

/-! ## Parts -/

/-- A reference occurs in another: it is the other itself, or occurs in one of its arguments or
under its wrapper. -/
inductive IsPart : TypeRef → TypeRef → Prop
  | refl (t : TypeRef) : IsPart t t
  | arg {u arg : TypeRef} {name : String} {args : List TypeRef} (harg : arg ∈ args)
      (h : IsPart u arg) : IsPart u (.named name args)
  | element {u t : TypeRef} (h : IsPart u t) : IsPart u (.array t)
  | inner {u t : TypeRef} (h : IsPart u t) : IsPart u (.nullable t)

theorem IsPart.trans {s t u : TypeRef} (hst : IsPart s t) (htu : IsPart t u) : IsPart s u := by
  induction htu with
  | refl => exact hst
  | arg harg _ ih => exact .arg harg ih
  | element _ ih => exact .element ih
  | inner _ ih => exact .inner ih

theorem isPart_stripNullable : ∀ t : TypeRef, t.stripNullable.IsPart t
  | .nullable t => .inner (isPart_stripNullable t)
  | .named _ _ => .refl _
  | .array _ => .refl _
  | .unparsed _ => .refl _

/-- The type by which a property is classified occurs in the type it is declared with. -/
theorem isPart_effectiveType (catalog : Catalog) (t : TypeRef) (context : String) :
    (catalog.effectiveType t context).IsPart t := by
  have hstrip := isPart_stripNullable t
  unfold Catalog.effectiveType
  split
  · rename_i element heq
    rw [heq] at hstrip
    exact (IsPart.element (isPart_stripNullable element)).trans hstrip
  · rename_i name arg heq
    rw [heq] at hstrip
    split
    · exact (IsPart.arg (List.mem_singleton_self arg) (isPart_stripNullable arg)).trans hstrip
    · exact hstrip
  · exact hstrip

theorem nest_le_nestMost {t : TypeRef} {ts : List TypeRef} (h : t ∈ ts) :
    t.nest ≤ nestMost ts := by
  induction ts with
  | nil => cases h
  | cons first ts ih =>
    rw [nestMost_cons]
    rcases List.mem_cons.1 h with rfl | h
    · exact Nat.le_max_left ..
    · exact Nat.le_trans (ih h) (Nat.le_max_right ..)

/-- A part takes no more levels than the whole. -/
theorem IsPart.nest_le {u t : TypeRef} (h : u.IsPart t) : u.nest ≤ t.nest := by
  induction h with
  | refl => exact Nat.le_refl _
  | arg harg _ ih =>
    have hmost := nest_le_nestMost harg
    rw [nest_named]
    omega
  | element _ ih =>
    rw [nest_array]
    exact Nat.le_trans ih (Nat.le_max_left ..)
  | inner _ ih =>
    rw [nest_nullable]
    exact Nat.le_trans ih (Nat.le_max_left ..)

/-! ## References that can be spelt -/

/-- Every name in the reference is dotted. -/
inductive Spellable : TypeRef → Prop
  | named {name : String} {args : List TypeRef} (h : Dotted name.toList)
      (hargs : ∀ arg ∈ args, Spellable arg) : Spellable (.named name args)
  | array {t : TypeRef} (h : Spellable t) : Spellable (.array t)
  | nullable {t : TypeRef} (h : Spellable t) : Spellable (.nullable t)

theorem Spellable.of_isPart {u t : TypeRef} (h : t.Spellable) (hpart : u.IsPart t) :
    u.Spellable := by
  induction hpart with
  | refl => exact h
  | arg harg _ ih =>
    cases h with
    | named _ hargs => exact ih (hargs _ harg)
  | element _ ih =>
    cases h with
    | array h => exact ih h
  | inner _ ih =>
    cases h with
    | nullable h => exact ih h

/-- The marker is no part of the name. -/
theorem NameText.dotted {s : List Char} {name : String} (h : NameText s name) :
    Dotted name.toList := by
  cases h with
  | plain h => rwa [String.toList_ofList]
  | marked h => rwa [String.toList_ofList]

mutual

theorem TypeText.spellable {s : List Char} {t : TypeRef} : TypeText s t → t.Spellable
  | .plain _ hn _ => .named hn.dotted (by simp)
  | .generic _ hn _ ha => .named hn.dotted ha.spellable
  | .nullable h _ => .nullable h.spellable
  | .array h _ _ => .array h.spellable

theorem ArgumentsText.spellable {s : List Char} {args : List TypeRef} :
    ArgumentsText s args → ∀ arg ∈ args, arg.Spellable
  | .last h _ => by
    rw [List.forall_mem_singleton]
    exact h.spellable
  | .more h _ ha => by
    rw [List.forall_mem_cons]
    exact ⟨h.spellable, ha.spellable⟩

end

/-- **Only spellable references are read.** -/
theorem spellable_of_parse {text : String} {t : TypeRef} (h : parse text = .ok t) :
    t.Spellable := by
  obtain ⟨body, w, hbody, -, -⟩ := denotes_of_parse h
  exact hbody.spellable

/-! ## The written form is a text of the grammar -/

/-- A blank may be put in front of a reference. -/
theorem TypeText.cons_blank {c : Char} (hc : isBlank c = true) {s : List Char} {t : TypeRef} :
    TypeText s t → TypeText (c :: s) t
  | @TypeText.plain w _ _ _ hw hn hv => .plain (w := c :: w) ((Blanks.singleton hc).append hw) hn hv
  | @TypeText.generic w _ _ _ _ _ hw hn hv ha =>
    .generic (w := c :: w) ((Blanks.singleton hc).append hw) hn hv ha
  | .nullable h hw => .nullable (h.cons_blank hc) hw
  | .array h hw hv => .array (h.cons_blank hc) hw hv

/-- The written arguments, the first of which may be written in any way. -/
theorem argumentsText_written {s : List Char} {arg : TypeRef} {args : List TypeRef}
    (h : TypeText s arg) (hargs : ∀ u ∈ args, TypeText u.writtenChars u) :
    ArgumentsText (s ++ (writtenMore args ++ ['>'])) (arg :: args) := by
  induction args generalizing s arg with
  | nil =>
    have hlast := ArgumentsText.last h .nil
    rwa [List.append_nil] at hlast
  | cons next args ih =>
    rw [List.forall_mem_cons] at hargs
    have hnext : TypeText (' ' :: next.writtenChars) next :=
      hargs.1.cons_blank Text.isBlank_space
    have hmore := ArgumentsText.more h .nil (ih hnext hargs.2)
    rw [writtenMore]
    simpa using hmore

/-- **The written form of a spellable reference is a text for it.** -/
theorem Spellable.typeText {t : TypeRef} (h : t.Spellable) : TypeText t.writtenChars t := by
  induction h with
  | @named name args hname hargs ih =>
    have htext : NameText name.toList name := by
      have hplain := NameText.plain hname
      rwa [String.ofList_toList] at hplain
    cases args with
    | nil =>
      have hplain := TypeText.plain .nil htext .nil
      rwa [List.nil_append, List.append_nil] at hplain
    | cons arg args =>
      rw [List.forall_mem_cons] at ih
      have hgeneric := TypeText.generic .nil htext .nil (argumentsText_written ih.1 ih.2)
      rwa [List.nil_append, List.append_nil] at hgeneric
  | array _ ih =>
    have harray := TypeText.array ih .nil .nil
    rwa [List.append_nil, List.append_assoc] at harray
  | nullable _ ih =>
    have hnullable := TypeText.nullable ih .nil
    rwa [List.append_nil] at hnullable

/-! ## Reading the written form -/

theorem ofText_of_parse {text : String} {t : TypeRef} (h : parse text = .ok t) :
    ofText text = t := by
  unfold ofText
  rw [h]

theorem ofText_of_fault {text : String} {fault : Fault} (h : parse text = .error fault) :
    ofText text = .unparsed text := by
  unfold ofText
  rw [h]

/-- A spellable reference that is not nested too deeply is read back from its written form. -/
theorem Spellable.parse_written {t : TypeRef} (h : t.Spellable) (hnest : t.nest ≤ maxNesting) :
    parse t.written = .ok t := by
  refine parse_eq_ok_iff.2 ⟨⟨t.writtenChars, [], h.typeText, .nil, ?_⟩, hnest⟩
  rw [written, String.toList_ofList, List.append_nil]

/-- What is read can be written and read again, and so can its parts. -/
theorem parse_written_of_isPart {text : String} {t u : TypeRef} (h : parse text = .ok t)
    (hpart : u.IsPart t) : parse u.written = .ok u := by
  have hspellable : u.Spellable := (spellable_of_parse h).of_isPart hpart
  have hnest : u.nest ≤ maxNesting := Nat.le_trans hpart.nest_le (parse_eq_ok_iff.1 h).2
  exact hspellable.parse_written hnest

/-- What a text stands for is read back from its written form, whether the text could be read or
not. -/
theorem ofText_written_ofText (text : String) : ofText (ofText text).written = ofText text := by
  cases h : parse text with
  | ok t =>
    rw [ofText_of_parse h]
    exact ofText_of_parse (parse_written_of_isPart h (.refl t))
  | error fault =>
    have htext : (TypeRef.unparsed text).written = text := String.ofList_toList
    rw [ofText_of_fault h, htext, ofText_of_fault h]

/-- **A written reference is read back.**  The reference that a text stands for is the one that its
written form stands for.  If the text can be read, then so can the written form of every part of the
reference, with that part as the result; and taking the nullable wrappers away, or going to the
effective type, leads from parts to parts. -/
theorem ofText_written (text : String) :
    ofText (ofText text).written = ofText text ∧
      ∀ t, parse text = .ok t → ∀ u, u.IsPart t →
        parse u.written = .ok u ∧ u.stripNullable.IsPart t ∧
          ∀ (catalog : Catalog) (context : String), (catalog.effectiveType u context).IsPart t := by
  refine ⟨ofText_written_ofText text,
    fun t h u hpart ↦ ⟨parse_written_of_isPart h hpart, ?_, fun catalog context ↦ ?_⟩⟩
  · exact (isPart_stripNullable u).trans hpart
  · exact (isPart_effectiveType catalog u context).trans hpart

/-- A list of pools, each of which may be absent. -/
def pools : TypeRef :=
  .named "List" [.nullable (.named "Pool" [])]

theorem denotes_pools : Denotes "global::List< Pool ? >".toList pools := by
  have hlist : IsSegment "List".toList := ⟨by decide, List.all_eq_true.1 (by decide)⟩
  have hpool : IsSegment "Pool".toList := ⟨by decide, List.all_eq_true.1 (by decide)⟩
  have hblank : Blanks [' '] := .singleton Text.isBlank_space
  have hname : TypeText [' ', 'P', 'o', 'o', 'l', ' '] (.named "Pool" []) :=
    .plain hblank (.plain (.segment hpool)) hblank
  have hargs := ArgumentsText.last (.nullable hname .nil) hblank
  exact ⟨_, [], .generic .nil (.marked (.segment hlist)) .nil hargs, .nil, rfl⟩

/-- The marker and the blanks are gone from the written form, and the rest is read back. -/
theorem ofText_written_pools :
    parse "global::List< Pool ? >" = .ok pools ∧ pools.written = "List<Pool?>" ∧
      parse "List<Pool?>" = .ok pools ∧ parse "Pool?" = .ok (.nullable (.named "Pool" [])) := by
  have hread : parse "global::List< Pool ? >" = .ok pools :=
    parse_eq_ok_iff.2 ⟨denotes_pools, by decide⟩
  have hparts := (ofText_written "global::List< Pool ? >").2 pools hread
  have hpart : (TypeRef.nullable (.named "Pool" [])).IsPart pools :=
    .arg (List.mem_singleton_self _) (.refl _)
  exact ⟨hread, rfl, (hparts _ (.refl _)).1, (hparts _ hpart).1⟩

end TypeRef

end ConfigDocs
