import Mathlib.Data.List.Infix
import ConfigDocs.Proofs.Patterns

/-!
# Where the content of an element begins and ends

The content of an element is what a search for one pattern finds between an opening tag and a
closing tag (`DocComment.elementPattern`).  The search may go back: a lazy run stands before the
closing tag, and if there is none behind an opening tag, the search goes on to the next.

None of that makes a difference.  The content begins behind the **first** opening tag and goes up to
the **first** closing tag after that, and if there is no closing tag there, no other opening tag
helps, because what follows it is an end of what followed the first (`suffix_of_afterFirst`).  So
two scans that never go back find the same (`DocComment.content?`), and what they find is said here
without any scan (`DocComment.content?_captures`).
-/

set_option autoImplicit false

namespace ConfigDocs

/-! ## The first place of some kind -/

namespace Text

/-- The first place in a text from which on `p` holds of what follows. -/
structure FirstAt (p : List Char → Prop) (s before rest : List Char) : Prop where
  /-- The place is in the text. -/
  eq : s = before ++ rest
  /-- `p` holds there. -/
  here : p rest
  /-- It holds nowhere before. -/
  first : ∀ before' rest', s = before' ++ rest' → p rest' → before.length ≤ before'.length

/-- There is a place in the text from which on `p` holds of what follows. -/
def Occurs (p : List Char → Prop) (s : List Char) : Prop :=
  ∃ before rest, s = before ++ rest ∧ p rest

section Places

variable {p : List Char → Prop} {c : Char} {s before rest : List Char}

theorem occurs_nil : Occurs p [] ↔ p [] := by
  constructor
  · rintro ⟨before, rest, heq, hrest⟩
    obtain ⟨-, rfl⟩ := List.append_eq_nil_iff.1 heq.symm
    exact hrest
  · exact fun h ↦ ⟨[], [], rfl, h⟩

theorem occurs_cons : Occurs p (c :: s) ↔ p (c :: s) ∨ Occurs p s := by
  constructor
  · rintro ⟨before, rest, heq, hrest⟩
    cases before with
    | nil => exact .inl (heq ▸ hrest)
    | cons d before => exact .inr ⟨before, rest, (List.cons.inj heq).2, hrest⟩
  · rintro (h | ⟨before, rest, rfl, hrest⟩)
    · exact ⟨[], c :: s, rfl, h⟩
    · exact ⟨c :: before, rest, rfl, hrest⟩

theorem Occurs.append (h : Occurs p rest) (before : List Char) : Occurs p (before ++ rest) := by
  obtain ⟨more, rest', rfl, hrest⟩ := h
  exact ⟨before ++ more, rest', (List.append_assoc ..).symm, hrest⟩

theorem FirstAt.occurs (h : FirstAt p s before rest) : Occurs p s :=
  ⟨before, rest, h.eq, h.here⟩

theorem FirstAt.nil (h : p s) : FirstAt p s [] s :=
  ⟨rfl, h, fun _ _ _ _ ↦ Nat.zero_le _⟩

theorem FirstAt.eq_nil (h : FirstAt p s before rest) (hs : p s) : before = [] ∧ rest = s := by
  obtain rfl := List.length_eq_zero_iff.1 (Nat.le_zero.1 (h.first [] s rfl hs))
  exact ⟨rfl, h.eq.symm⟩

theorem firstAt_cons (h : ¬p (c :: s)) :
    FirstAt p (c :: s) before rest ↔ ∃ more, before = c :: more ∧ FirstAt p s more rest := by
  constructor
  · intro hfirst
    cases before with
    | nil => exact absurd (hfirst.eq ▸ hfirst.here) h
    | cons d more =>
      obtain ⟨rfl, heq⟩ := List.cons.inj hfirst.eq
      refine ⟨more, rfl, heq, hfirst.here, fun before' rest' heq' hrest' ↦ ?_⟩
      exact Nat.le_of_succ_le_succ (hfirst.first (c :: before') rest' (heq' ▸ rfl) hrest')
  · rintro ⟨more, rfl, hfirst⟩
    refine ⟨hfirst.eq ▸ rfl, hfirst.here, fun before' rest' heq hrest ↦ ?_⟩
    cases before' with
    | nil => exact absurd (heq ▸ hrest) h
    | cons d before' =>
      exact Nat.succ_le_succ (hfirst.first before' rest' (List.cons.inj heq).2 hrest)

end Places

/-! ## Letter case -/

/-- A character that becomes another in lower case is this or its capital. -/
theorem eq_or_capital_of_toLower {c x : Char} (h : c.toLower = x) :
    c = x ∨ 65 ≤ c.toNat ∧ c.toNat + 32 = x.toNat := by
  by_cases hupper : 'A'.val ≤ c.val ∧ c.val ≤ 'Z'.val
  · have hval : c.toLower.val = c.val + 32 := congrArg Char.val (dif_pos hupper)
    have hfirst : 65 ≤ c.val.toNat := UInt32.le_iff_toNat_le.1 hupper.1
    have hlast : c.val.toNat ≤ 90 := UInt32.le_iff_toNat_le.1 hupper.2
    refine .inr ⟨hfirst, ?_⟩
    rw [← h, Char.toNat, Char.toNat, hval, UInt32.toNat_add]
    have : (32 : UInt32).toNat = 32 := rfl
    omega
  · exact .inl ((dif_neg hupper : c.toLower = c).symm.trans h)

/-- But for two letters, folding is lower case. -/
theorem toLower_of_foldCase {c x : Char} (h : foldCase c = x) (hs : x ≠ 's') (hk : x ≠ 'k') :
    c.toLower = x := by
  unfold foldCase at h
  split at h
  · exact absurd h.symm hs
  · split at h
    · exact absurd h.symm hk
    · exact h

/-- A character before the small letters is folded to from itself alone. -/
theorem eq_of_foldCase {c x : Char} (h : foldCase c = x) (hx : x.toNat < 97) : c = x := by
  have hletter (y : Char) (hy : 97 ≤ y.toNat) : x ≠ y := by
    rintro rfl
    omega
  have hlower := toLower_of_foldCase h (hletter 's' (by decide)) (hletter 'k' (by decide))
  rcases eq_or_capital_of_toLower hlower with heq | hcapital
  · exact heq
  · omega

/-- The text is the given one up to letter case. -/
def Spells (pattern s : List Char) : Prop :=
  s.map foldCase = pattern

end Text

namespace DocComment

open Text (Occurs FirstAt Spells foldCase isWordChar isBlank Cursor Pattern)
open Text.Pattern (isEdge)

/-! ## Tags -/

/-- The pattern of an element: its opening tag, its content, which is the group, and its closing
tag. -/
def elementPattern (tag : List Char) : Pattern :=
  .seq (.literal ('<' :: tag)) <| .seq .edge <|
    .seq (.run true (· != '>')) <| .seq (.char (· == '>')) <|
      .seq (.group (.run false fun _ ↦ true)) (.literal (closingTag tag))

/-- The text begins with an opening tag, and this follows it.  The tag is its name, at the edge of a
word, and anything up to the next `>`. -/
def Opens (tag s rest : List Char) : Prop :=
  ∃ name attributes, s = name ++ attributes ++ '>' :: rest ∧ Spells ('<' :: tag) name ∧
    isEdge name.getLast? (attributes ++ ['>']).head? = true ∧ '>' ∉ attributes

/-- The text begins with an opening tag. -/
def OpensHere (tag s : List Char) : Prop :=
  ∃ rest, Opens tag s rest

/-- The text begins with a closing tag. -/
def ClosesHere (tag s : List Char) : Prop :=
  ∃ closing rest, s = closing ++ rest ∧ Spells (closingTag tag) closing

/-- What is needed of the name of an element. -/
structure IsTagName (tag : List Char) : Prop where
  /-- It ends with a character of a word, in whatever letter case it is written. -/
  word : ∀ name, Spells ('<' :: tag) name → name.getLast?.any isWordChar = true
  /-- It is given in small letters. -/
  small : Spells tag tag
  /-- There is no angle bracket in it. -/
  opening : '<' ∉ tag
  closing : '>' ∉ tag

/-! ## The two scans -/

theorem afterFolded_eq_some_iff {pattern s rest : List Char} :
    afterFolded pattern s = some rest ↔ ∃ name, s = name ++ rest ∧ Spells pattern name := by
  induction pattern generalizing s with
  | nil => simp [afterFolded, Spells, eq_comm]
  | cons p pattern ih =>
    cases s with
    | nil => simp [afterFolded, Spells]
    | cons c s =>
      rw [afterFolded]
      constructor
      · intro h
        rw [Option.ite_none_right_eq_some, ih] at h
        obtain ⟨hc, name, rfl, hname⟩ := h
        exact ⟨c :: name, rfl, congrArg₂ List.cons hc hname⟩
      · rintro ⟨name, heq, hname⟩
        cases name with
        | nil => cases hname
        | cons d name =>
          obtain ⟨rfl, rfl⟩ := List.cons.inj heq
          obtain ⟨hc, hname⟩ := List.cons.inj hname
          rw [if_pos hc]
          exact ih.2 ⟨name, rfl, hname⟩

theorem afterFirst_eq_some_iff {x : Char} {s rest : List Char} :
    afterFirst x s = some rest ↔ ∃ before, s = before ++ x :: rest ∧ x ∉ before := by
  induction s with
  | nil => simp [afterFirst]
  | cons c s ih =>
    rw [afterFirst]
    by_cases hc : c = x
    · subst hc
      rw [if_pos rfl]
      constructor
      · rintro ⟨⟩
        exact ⟨[], rfl, List.not_mem_nil⟩
      · rintro ⟨before, heq, hbefore⟩
        cases before with
        | nil => exact congrArg some (List.cons.inj heq).2
        | cons d before =>
          exact absurd (List.mem_cons.2 (.inl (List.cons.inj heq).1)) hbefore
    · rw [if_neg hc, ih]
      constructor
      · rintro ⟨before, rfl, hbefore⟩
        exact ⟨c :: before, rfl, by simp [Ne.symm hc, hbefore]⟩
      · rintro ⟨before, heq, hbefore⟩
        cases before with
        | nil => exact absurd (List.cons.inj heq).1 hc
        | cons d before =>
          exact ⟨before, (List.cons.inj heq).2, fun h ↦ hbefore (List.mem_cons_of_mem d h)⟩

/-- What follows the first mark of an end of a text is an end of what follows its first mark. -/
theorem suffix_of_afterFirst {x : Char} {before s rest rest' : List Char}
    (h : afterFirst x (before ++ s) = some rest) (h' : afterFirst x s = some rest') :
    rest' <:+ rest := by
  induction before with
  | nil =>
    rw [List.nil_append, h'] at h
    exact Option.some.inj h ▸ List.suffix_refl _
  | cons c before ih =>
    rw [List.cons_append, afterFirst] at h
    split at h
    · -- the text behind its first character goes on to where the end has its mark
      obtain ⟨more, rfl, -⟩ := afterFirst_eq_some_iff.1 h'
      rw [← Option.some.inj h]
      exact ⟨before ++ more ++ [x], by simp⟩
    · exact ih h

theorem afterOpeningHere_eq_bind (tag s : List Char) :
    afterOpeningHere tag s = (afterFolded ('<' :: tag) s).bind fun more ↦
      if more.head?.any isWordChar then none else afterFirst '>' more := by
  unfold afterOpeningHere
  cases afterFolded ('<' :: tag) s with
  | none => rfl
  | some more =>
    cases more with
    | nil => rfl
    | cons c more => rfl

section Scans

variable {tag : List Char} {s rest : List Char}

theorem IsTagName.isEdge (htag : IsTagName tag) {name : List Char}
    (hname : Spells ('<' :: tag) name) (after : Option Char) :
    isEdge name.getLast? after = !after.any isWordChar := by
  rw [Text.Pattern.isEdge, htag.word name hname, Bool.true_bne]

theorem afterOpeningHere_eq_some_iff (htag : IsTagName tag) :
    afterOpeningHere tag s = some rest ↔ Opens tag s rest := by
  have hhead (attributes rest : List Char) :
      (attributes ++ '>' :: rest).head? = (attributes ++ ['>']).head? := by
    cases attributes <;> rfl
  rw [afterOpeningHere_eq_bind, Option.bind_eq_some_iff]
  constructor
  · rintro ⟨more, hmore, h⟩
    obtain ⟨name, rfl, hname⟩ := afterFolded_eq_some_iff.1 hmore
    rw [Option.ite_none_left_eq_some, Bool.not_eq_true] at h
    obtain ⟨attributes, rfl, hattributes⟩ := afterFirst_eq_some_iff.1 h.2
    refine ⟨name, attributes, (List.append_assoc ..).symm, hname, ?_, hattributes⟩
    rw [htag.isEdge hname, ← hhead attributes rest, h.1, Bool.not_false]
  · rintro ⟨name, attributes, rfl, hname, hedge, hattributes⟩
    refine ⟨attributes ++ '>' :: rest,
      afterFolded_eq_some_iff.2 ⟨name, List.append_assoc .., hname⟩, ?_⟩
    rw [htag.isEdge hname, ← hhead attributes rest, Bool.not_eq_true'] at hedge
    rw [hedge, if_neg Bool.false_ne_true]
    exact afterFirst_eq_some_iff.2 ⟨attributes, rfl, hattributes⟩

/-- An opening tag ends at the first `>`. -/
theorem Opens.afterFirst (htag : IsTagName tag) (h : Opens tag s rest) :
    afterFirst '>' s = some rest := by
  obtain ⟨name, attributes, rfl, hname, -, hattributes⟩ := h
  refine afterFirst_eq_some_iff.2 ⟨name ++ attributes, rfl, ?_⟩
  have hmark : '>' ∉ name := by
    intro hmem
    have hfold : foldCase '>' ∈ name.map foldCase := List.mem_map_of_mem hmem
    rw [hname, List.mem_cons] at hfold
    exact hfold.elim (by decide) htag.closing
  simp [hmark, hattributes]

theorem not_opensHere_iff (htag : IsTagName tag) :
    ¬OpensHere tag s ↔ afterOpeningHere tag s = none := by
  rw [← not_iff_not, not_not, ← Ne, Option.ne_none_iff_exists']
  exact exists_congr fun rest ↦ (afterOpeningHere_eq_some_iff htag).symm

theorem not_opensHere_nil : ¬OpensHere tag [] := by
  rintro ⟨rest, name, attributes, heq, -⟩
  simp at heq

/-- An opening tag begins with an angle bracket. -/
theorem lt_mem_of_opens (h : Opens tag s rest) : '<' ∈ s := by
  obtain ⟨name, attributes, rfl, hname, -⟩ := h
  cases name with
  | nil => cases hname
  | cons c name =>
    obtain rfl : c = '<' := Text.eq_of_foldCase (List.cons.inj hname).1 (by decide)
    simp

/-- **The scan for an opening tag stops at the first.** -/
theorem afterOpening_eq_some_iff (htag : IsTagName tag) :
    afterOpening tag s = some rest ↔
      ∃ before opening, FirstAt (OpensHere tag) s before opening ∧ Opens tag opening rest := by
  induction s with
  | nil =>
    refine iff_of_false nofun ?_
    rintro ⟨before, opening, hfirst, -⟩
    exact not_opensHere_nil (Text.occurs_nil.1 hfirst.occurs)
  | cons c s ih =>
    rw [afterOpening]
    cases hhere : afterOpeningHere tag (c :: s) with
    | some content =>
      have hopens := (afterOpeningHere_eq_some_iff htag).1 hhere
      constructor
      · rintro ⟨⟩
        exact ⟨[], c :: s, .nil ⟨_, hopens⟩, hopens⟩
      · rintro ⟨before, opening, hfirst, hopening⟩
        obtain ⟨-, rfl⟩ := hfirst.eq_nil ⟨_, hopens⟩
        rw [← afterOpeningHere_eq_some_iff htag, hhere] at hopening
        exact hopening
    | none =>
      simp only [Text.firstAt_cons ((not_opensHere_iff htag).2 hhere), ih]
      constructor
      · rintro ⟨before, opening, hfirst, hopening⟩
        exact ⟨c :: before, opening, ⟨before, rfl, hfirst⟩, hopening⟩
      · rintro ⟨-, opening, ⟨before, rfl, hfirst⟩, hopening⟩
        exact ⟨before, opening, hfirst, hopening⟩

theorem afterOpening_eq_none_iff (htag : IsTagName tag) :
    afterOpening tag s = none ↔ ¬Occurs (OpensHere tag) s := by
  induction s with
  | nil => exact iff_of_true rfl (mt Text.occurs_nil.1 not_opensHere_nil)
  | cons c s ih =>
    rw [Text.occurs_cons, not_or, not_opensHere_iff htag, ← ih, afterOpening]
    cases afterOpeningHere tag (c :: s) <;> simp

theorem not_closesHere_iff : ¬ClosesHere tag s ↔ afterFolded (closingTag tag) s = none := by
  rw [← not_iff_not, not_not, ← Ne, Option.ne_none_iff_exists']
  simp only [afterFolded_eq_some_iff, ClosesHere]
  exact exists_comm

theorem not_closesHere_nil : ¬ClosesHere tag [] :=
  not_closesHere_iff.2 rfl

/-- **The scan for a closing tag stops at the first.** -/
theorem beforeClosing_eq_some_iff {content : List Char} :
    beforeClosing tag s = some content ↔ ∃ rest, FirstAt (ClosesHere tag) s content rest := by
  induction s generalizing content with
  | nil =>
    refine iff_of_false nofun ?_
    rintro ⟨rest, hfirst⟩
    exact not_closesHere_nil (Text.occurs_nil.1 hfirst.occurs)
  | cons c s ih =>
    rw [beforeClosing]
    by_cases hhere : ClosesHere tag (c :: s)
    · obtain ⟨behind, hbehind⟩ := Option.ne_none_iff_exists'.1 fun hnone ↦
        not_closesHere_iff.2 hnone hhere
      simp only [hbehind]
      constructor
      · rintro ⟨⟩
        exact ⟨c :: s, .nil hhere⟩
      · rintro ⟨rest, hfirst⟩
        rw [(hfirst.eq_nil hhere).1]
    · simp only [not_closesHere_iff.1 hhere, Text.firstAt_cons hhere, Option.map_eq_some_iff, ih]
      constructor
      · rintro ⟨more, ⟨rest, hfirst⟩, rfl⟩
        exact ⟨rest, more, rfl, hfirst⟩
      · rintro ⟨rest, more, rfl, hfirst⟩
        exact ⟨more, ⟨rest, hfirst⟩, rfl⟩

theorem beforeClosing_eq_none_iff : beforeClosing tag s = none ↔ ¬Occurs (ClosesHere tag) s := by
  induction s with
  | nil => exact iff_of_true rfl (mt Text.occurs_nil.1 not_closesHere_nil)
  | cons c s ih =>
    rw [Text.occurs_cons, not_or, not_closesHere_iff, ← ih, beforeClosing]
    cases afterFolded (closingTag tag) (c :: s) <;> simp

/-- There is no closing tag in front of the first. -/
theorem not_occurs_of_firstAt {content : List Char} (h : FirstAt (ClosesHere tag) s content rest) :
    ¬Occurs (ClosesHere tag) content := by
  rintro ⟨before, -, rfl, closing, after, rfl, hclosing⟩
  have hle := h.first before (closing ++ (after ++ rest)) (by simp [h.eq])
    ⟨closing, after ++ rest, rfl, hclosing⟩
  have hlength := congrArg List.length hclosing
  simp only [List.length_map, closingTag, List.length_cons, List.length_append] at hlength hle
  omega

end Scans

/-! ## The scans and the pattern -/

section Search

variable {tag : List Char}

/-- The lazy run before a closing tag ends at the first. -/
theorem map_group_firstRun (tag content s : List Char) (last : Option Char)
    (group : Option (List Char)) :
    (Pattern.firstRun false (fun _ ↦ true)
        (fun behind ↦
          (Pattern.literal (closingTag tag)).first some (behind.grouping (content ++ s)))
        group last s).map Cursor.group =
      (beforeClosing tag s).map fun more ↦ some (content ++ more) := by
  induction s generalizing content last with
  | nil => rfl
  | cons c s ih =>
    have hnext := ih (content ++ [c]) (some c)
    rw [List.append_assoc, List.singleton_append] at hnext
    rw [Pattern.firstRun, if_pos rfl, if_neg Bool.false_ne_true, Option.map_or, hnext,
      beforeClosing]
    simp only [Cursor.grouping, Pattern.first_literal]
    cases afterFolded (closingTag tag) (c :: s) with
    | some behind => simp
    | none =>
      cases beforeClosing tag s <;> simp

theorem map_group_matchHere (htag : IsTagName tag) (last : Option Char) (s : List Char) :
    ((elementPattern tag).matchHere last s).map Cursor.group =
      ((afterOpeningHere tag s).bind (beforeClosing tag)).map some := by
  rw [Pattern.matchHere, elementPattern, Pattern.first_seq, Pattern.first_literal,
    afterOpeningHere_eq_bind]
  cases hname : afterFolded ('<' :: tag) s with
  | none => rfl
  | some more =>
    obtain ⟨name, rfl, hspells⟩ := afterFolded_eq_some_iff.1 hname
    have hlength : ('<' :: tag).length = name.length := by
      rw [← hspells, List.length_map]
    have hlast : name.getLast?.or last = name.getLast? := by
      have hword := htag.word name hspells
      cases hlast : name.getLast? with
      | none =>
        rw [hlast] at hword
        cases hword
      | some c => rfl
    rw [Option.bind_some, Option.bind_some, hlength, List.take_left, hlast, Pattern.first_seq,
      Pattern.first]
    simp only [htag.isEdge hspells, Pattern.first_run_until]
    cases more.head?.any isWordChar with
    | true => rfl
    | false =>
      cases afterFirst '>' more with
      | none => rfl
      | some rest =>
        exact map_group_firstRun tag [] rest (some '>') none

/-- **The search for an element finds what the two scans find.** -/
theorem map_group_find (htag : IsTagName tag) (last : Option Char) (s : List Char) :
    ((elementPattern tag).find last s).map Cursor.group =
      ((afterOpening tag s).bind (beforeClosing tag)).map some := by
  induction s generalizing last with
  | nil => exact map_group_matchHere htag last []
  | cons c s ih =>
    rw [Pattern.find, Option.map_or, map_group_matchHere htag, ih, afterOpening]
    cases hhere : afterOpeningHere tag (c :: s) with
    | none => rfl
    | some rest =>
      cases hrest : beforeClosing tag rest with
      | some content => simp [hrest]
      | none =>
        -- what follows a later opening tag is an end of this rest, in which there is no closing tag
        have hlater : (afterOpening tag s).bind (beforeClosing tag) = none := by
          refine Option.bind_eq_none_iff.2 fun rest' hrest' ↦ ?_
          obtain ⟨before, opening, hfirst, hopening⟩ := (afterOpening_eq_some_iff htag).1 hrest'
          have hmark := ((afterOpeningHere_eq_some_iff htag).1 hhere).afterFirst htag
          rw [hfirst.eq, ← List.cons_append] at hmark
          obtain ⟨between, rfl⟩ := suffix_of_afterFirst hmark (hopening.afterFirst htag)
          rw [beforeClosing_eq_none_iff] at hrest ⊢
          exact mt (fun h ↦ h.append between) hrest
        simp [hrest, hlater]

end Search

/-! ## The content of an element -/

/-- A blank comment needs no case of its own, since there is no tag in it. -/
theorem content?_eq_bind {tag xml : List Char} (htag : IsTagName tag) :
    content? tag xml = (afterOpening tag xml).bind (beforeClosing tag) := by
  rw [content?]
  split
  · rename_i hblank
    have hnone : ¬Occurs (OpensHere tag) xml := by
      rintro ⟨before, opening, rfl, rest, hopening⟩
      have hmem := List.mem_append_right before (lt_mem_of_opens hopening)
      exact absurd (List.all_eq_true.1 hblank '<' hmem) (by decide)
    rw [(afterOpening_eq_none_iff htag).2 hnone, Option.bind_none]
  · rfl

theorem content?_eq_some_iff {tag xml content : List Char} (htag : IsTagName tag) :
    content? tag xml = some content ↔
      ∃ before opening inner behind, FirstAt (OpensHere tag) xml before opening ∧
        Opens tag opening inner ∧ FirstAt (ClosesHere tag) inner content behind := by
  simp only [content?_eq_bind htag, Option.bind_eq_some_iff, afterOpening_eq_some_iff htag,
    beforeClosing_eq_some_iff]
  constructor
  · rintro ⟨inner, ⟨before, opening, hfirst, hopening⟩, behind, hclosing⟩
    exact ⟨before, opening, inner, behind, hfirst, hopening, hclosing⟩
  · rintro ⟨before, opening, inner, behind, hfirst, hopening, hclosing⟩
    exact ⟨inner, ⟨before, opening, hfirst, hopening⟩, behind, hclosing⟩

theorem content?_eq_none_iff {tag xml : List Char} (htag : IsTagName tag) :
    content? tag xml = none ↔
      (∀ c ∈ xml, isBlank c = true) ∨ ¬Occurs (OpensHere tag) xml ∨
        ∃ before opening inner, FirstAt (OpensHere tag) xml before opening ∧
          Opens tag opening inner ∧ ¬Occurs (ClosesHere tag) inner := by
  constructor
  · intro hnone
    rw [content?_eq_bind htag] at hnone
    cases hinner : afterOpening tag xml with
    | none => exact .inr (.inl ((afterOpening_eq_none_iff htag).1 hinner))
    | some inner =>
      rw [hinner, Option.bind_some, beforeClosing_eq_none_iff] at hnone
      obtain ⟨before, opening, hfirst, hopening⟩ := (afterOpening_eq_some_iff htag).1 hinner
      exact .inr (.inr ⟨before, opening, inner, hfirst, hopening, hnone⟩)
  · rintro (hblank | hnone | ⟨before, opening, inner, hfirst, hopening, hnone⟩)
    · rw [content?, if_pos (List.all_eq_true.2 hblank)]
    · rw [content?_eq_bind htag, (afterOpening_eq_none_iff htag).2 hnone, Option.bind_none]
    · rw [content?_eq_bind htag,
        (afterOpening_eq_some_iff htag).2 ⟨before, opening, hfirst, hopening⟩, Option.bind_some,
        beforeClosing_eq_none_iff.2 hnone]

/-- The elements of a comment whose text is asked for. -/
inductive Element where
  /-- What a declaration is for. -/
  | summary
  /-- The sample value a declaration gives. -/
  | sample
deriving DecidableEq, Repr

namespace Element

/-- The name of the element. -/
def tag : Element → String
  | .summary => "summary"
  | .sample => "example"

/-- The plain text of the element, empty if there is none. -/
def text : Element → Option String → String
  | .summary => DocComment.summary
  | .sample => DocComment.sample

theorem text_eq (e : Element) (xml : Option String) : e.text xml = elementText e.tag xml := by
  cases e <;> rfl

/-- Each of the two names ends with an `e` or a `y`. -/
theorem isTagName_tag (e : Element) : IsTagName e.tag.toList := by
  have hletter {c x : Char} (h : foldCase c = x) (hx : x = 'e' ∨ x = 'y') :
      isWordChar c = true := by
    have hlower : c.toLower = x := by
      refine Text.toLower_of_foldCase h ?_ ?_ <;> rcases hx with rfl | rfl <;> decide
    rcases Text.eq_or_capital_of_toLower hlower with rfl | ⟨-, hcapital⟩
    · rcases hx with rfl | rfl <;> decide
    · rw [← Char.ofNat_toNat c, Nat.eq_sub_of_add_eq hcapital]
      rcases hx with rfl | rfl <;> decide
  refine ⟨fun name hname ↦ ?_, by cases e <;> rfl, by cases e <;> decide, by cases e <;> decide⟩
  have hlast := congrArg List.getLast? hname
  rw [List.getLast?_map] at hlast
  cases hc : name.getLast? with
  | none =>
    rw [hc] at hlast
    cases e <;> cases hlast
  | some c =>
    rw [hc] at hlast
    cases e with
    | summary => exact hletter (Option.some.inj hlast) (.inr rfl)
    | sample => exact hletter (Option.some.inj hlast) (.inl rfl)

end Element

/-- **The content of an element stands between its first opening tag and the first closing tag after
that.**  It is what the pattern of the element finds, there is no closing tag in it, and nothing is
found exactly if the comment is blank, has no opening tag, or has no closing tag after the first
one. -/
theorem content?_captures (e : Element) (xml : List Char) :
    ((elementPattern e.tag.toList).find none xml).map Cursor.group =
        (content? e.tag.toList xml).map some ∧
      (∀ content, content? e.tag.toList xml = some content ↔
        ∃ before opening inner behind, FirstAt (OpensHere e.tag.toList) xml before opening ∧
          Opens e.tag.toList opening inner ∧
          FirstAt (ClosesHere e.tag.toList) inner content behind) ∧
      (∀ content, content? e.tag.toList xml = some content →
        ¬Occurs (ClosesHere e.tag.toList) content) ∧
      (content? e.tag.toList xml = none ↔
        (∀ c ∈ xml, isBlank c = true) ∨ ¬Occurs (OpensHere e.tag.toList) xml ∨
          ∃ before opening inner, FirstAt (OpensHere e.tag.toList) xml before opening ∧
            Opens e.tag.toList opening inner ∧ ¬Occurs (ClosesHere e.tag.toList) inner) := by
  have htag := e.isTagName_tag
  refine ⟨?_, fun content ↦ content?_eq_some_iff htag, fun content hcontent ↦ ?_,
    content?_eq_none_iff htag⟩
  · rw [map_group_find htag, content?_eq_bind htag]
  · obtain ⟨_, _, _, _, -, -, hfirst⟩ := (content?_eq_some_iff htag).1 hcontent
    exact not_occurs_of_firstAt hfirst

end DocComment

end ConfigDocs
