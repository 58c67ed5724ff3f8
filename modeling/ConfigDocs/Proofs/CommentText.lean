import ConfigDocs.Proofs.ElementContent
import ConfigDocs.Proofs.Entities
import ConfigDocs.Proofs.Words

/-!
# Text recovered from markup

A text becomes part of a comment in two ways at once: what could be mistaken for markup is escaped,
and tags are put in where they are wanted (`DocComment.MarkedUp`).  Reading the comment undoes both.
The tags go first, and nothing else goes with them, because an escaped text has no angle brackets;
then the entities are decoded.  What remains is the text, but for its blanks
(`DocComment.text_framed`).

The content may be anything but its own closing tag.  Where the tag that closes the element is
written does not depend on the content then: no end of the content and beginning of that tag make
one (`DocComment.firstAt_framed`).
-/

set_option autoImplicit false

namespace ConfigDocs.DocComment

open Text (Occurs FirstAt Spells foldCase isWordChar Cursor Pattern)

/-! ## Tags are dropped -/

/-- The pattern of any tag. -/
def tagPattern : Pattern :=
  .seq (.char (· == '<')) <| .seq (.run false fun _ ↦ true) (.char (· == '>'))

theorem matchHere_tagPattern (last : Option Char) (c : Char) (s : List Char) :
    tagPattern.matchHere last (c :: s) =
      if c = '<' then (afterFirst '>' s).map fun rest ↦ ⟨some '>', rest, none⟩ else none := by
  rw [Pattern.matchHere, tagPattern, Pattern.first_seq, Pattern.first_char_cons,
    Pattern.first_fewest_until]
  simp only [beq_iff_eq]

theorem afterFirst_eq_none_iff {x : Char} {s : List Char} : afterFirst x s = none ↔ x ∉ s := by
  induction s with
  | nil => simp [afterFirst]
  | cons c s ih => by_cases hc : c = x <;> simp [afterFirst, hc, ih, Ne.symm]

/-- What is in a tag is passed over, up to the bracket that ends it. -/
theorem dropTags_true_append {inner : List Char} (h : '>' ∉ inner) (s : List Char) :
    dropTags true (inner ++ '>' :: s) = dropTags false s := by
  induction inner with
  | nil => rfl
  | cons c inner ih =>
    rw [List.mem_cons, not_or] at h
    rw [List.cons_append, dropTags, bne_iff_ne.2 (Ne.symm h.1), ih h.2]

theorem dropTags_tag_append {inner : List Char} (h : '>' ∉ inner) (s : List Char) :
    dropTags false ('<' :: (inner ++ '>' :: s)) = dropTags false s := by
  rw [dropTags, if_pos ⟨rfl, by simp⟩, dropTags_true_append h]

theorem dropTags_append_of_notMem {plain : List Char} (h : '<' ∉ plain) (s : List Char) :
    dropTags false (plain ++ s) = plain ++ dropTags false s := by
  induction plain with
  | nil => rfl
  | cons c plain ih =>
    rw [List.mem_cons, not_or] at h
    rw [List.cons_append, dropTags, if_neg fun hc ↦ h.1 hc.1.symm, ih h.2, List.cons_append]

/-- **Dropping the tags is replacing what their pattern matches by nothing.** -/
theorem replaceAll_tagPattern (s : List Char) : tagPattern.replaceAll [] s = dropTags false s := by
  rw [Pattern.replaceAll]
  generalize (none : Option Char) = last
  induction hn : s.length using Nat.strong_induction_on generalizing s last with
  | _ n ih =>
  subst hn
  cases s with
  | nil => rfl
  | cons c s =>
    have hnext := ih _ (Nat.lt_succ_self _) s (some c) rfl
    rw [Pattern.replaceFrom, matchHere_tagPattern]
    by_cases hc : c = '<'
    · subst hc
      rw [if_pos rfl]
      cases hrest : afterFirst '>' s with
      | none =>
        rw [dropTags, if_neg fun h ↦ afterFirst_eq_none_iff.1 hrest h.2]
        exact congrArg _ hnext
      | some rest =>
        obtain ⟨inner, rfl, hinner⟩ := afterFirst_eq_some_iff.1 hrest
        have hcovered : (inner ++ '>' :: rest).length - rest.length = (inner ++ ['>']).length := by
          simp only [List.length_append, List.length_cons, List.length_nil]
          omega
        have hshort : rest.length < ('<' :: (inner ++ '>' :: rest)).length := by
          simp only [List.length_append, List.length_cons]
          omega
        rw [dropTags_tag_append hinner, Option.map_some]
        simp only [hcovered, List.nil_append]
        rw [List.append_cons inner '>' rest, Pattern.replaceFrom_append]
        exact ih _ hshort rest _ rfl
    · rw [if_neg hc, dropTags, if_neg fun h ↦ hc h.1]
      exact congrArg _ hnext

theorem dropTags_subset (inside : Bool) (s : List Char) : dropTags inside s ⊆ s := by
  fun_induction dropTags inside s with
  | case1 => exact List.Subset.refl _
  | case2 c rest ih => exact List.subset_cons_of_subset c ih
  | case3 c rest _ ih => exact List.subset_cons_of_subset c ih
  | case4 c rest _ ih => exact List.cons_subset_cons c ih

/-- **No tag is left**: behind a `<` that remains there is no `>`. -/
theorem notMem_of_dropTags_eq {inside : Bool} {s before after : List Char}
    (h : dropTags inside s = before ++ '<' :: after) : '>' ∉ after := by
  fun_induction dropTags inside s generalizing before with
  | case1 => simp at h
  | case2 c rest ih => exact ih h
  | case3 c rest _ ih => exact ih h
  | case4 c rest hc ih =>
    cases before with
    | nil =>
      obtain ⟨rfl, rfl⟩ := List.cons.inj h
      exact fun hmem ↦ hc ⟨rfl, dropTags_subset false rest hmem⟩
    | cons d before => exact ih (List.cons.inj h).2

/-! ## Escaped text with tags in it -/

/-- The second text is the first one escaped, with any number of tags before, between and behind its
characters. -/
inductive MarkedUp : List Char → List Char → Prop
  | nil : MarkedUp [] []
  | char (c : Char) {s content : List Char} (h : MarkedUp s content) :
      MarkedUp (c :: s) (escapeChar c ++ content)
  | tag (inner : List Char) (hinner : '>' ∉ inner) {s content : List Char}
      (h : MarkedUp s content) : MarkedUp s ('<' :: (inner ++ '>' :: content))

theorem lt_notMem_escapeChar (c : Char) : '<' ∉ escapeChar c := by
  unfold escapeChar
  split_ifs with hamp hlt
  · decide
  · decide
  · decide
  · decide
  · decide
  · exact fun hc ↦ hlt (List.mem_singleton.1 hc).symm

theorem MarkedUp.dropTags_eq {s content : List Char} (h : MarkedUp s content) :
    dropTags false content = escape s := by
  induction h with
  | nil => rfl
  | char c _ ih => rw [dropTags_append_of_notMem (lt_notMem_escapeChar c), ih, escape, escape,
      List.flatMap_cons]
  | tag inner hinner _ ih => rw [dropTags_tag_append hinner, ih]

/-- Reduced to plain text, an escaped text with tags in it is the text, but for its blanks. -/
theorem MarkedUp.plainText_eq {s content : List Char} (h : MarkedUp s content) :
    plainText content = Text.spaced (Text.words s) := by
  rw [plainText, h.dropTags_eq, decodeEntities_escape, Text.normalizeBlanks_eq_spaced]

/-! ## Content between its tags -/

section Framed

variable {tag : List Char}

/-- An opening tag without attributes. -/
theorem opens_framed (htag : IsTagName tag) (rest : List Char) :
    Opens tag ('<' :: (tag ++ '>' :: rest)) rest := by
  have hname : Spells ('<' :: tag) ('<' :: tag) := congrArg (List.cons '<') htag.small
  refine ⟨'<' :: tag, [], by simp, hname, ?_, List.not_mem_nil⟩
  rw [htag.isEdge hname]
  decide

theorem spells_closingTag (htag : IsTagName tag) : Spells (closingTag tag) (closingTag tag) := by
  rw [Spells, closingTag, List.map_cons, List.map_cons, List.map_append, htag.small]
  rfl

/-- No closing tag has an angle bracket behind its first character but at its end. -/
theorem lt_notMem_tail (htag : IsTagName tag) {c : Char} {rest : List Char}
    (h : Spells (closingTag tag) (c :: rest)) : '<' ∉ rest := by
  intro hmem
  have hfold : foldCase '<' ∈ rest.map foldCase := List.mem_map_of_mem hmem
  rw [(List.cons.inj h).2, List.mem_cons, List.mem_append, List.mem_singleton] at hfold
  rcases hfold with hslash | htagged | hend
  · exact absurd hslash (by decide)
  · exact htag.opening htagged
  · exact absurd hend (by decide)

/-- **The first closing tag is the one behind the content**, if there is none in the content. -/
theorem firstAt_framed (htag : IsTagName tag) {content : List Char}
    (h : ¬Occurs (ClosesHere tag) content) :
    FirstAt (ClosesHere tag) (content ++ closingTag tag) content (closingTag tag) := by
  have hframe := spells_closingTag htag
  refine ⟨rfl, ⟨closingTag tag, [], (List.append_nil _).symm, hframe⟩, ?_⟩
  rintro before rest heq ⟨closing, after, rfl, hclosing⟩
  by_contra hlt
  -- the tag begins within the content, and then it ends there as well
  obtain ⟨inside, rfl, htail⟩ : ∃ inside, content = before ++ inside ∧
      closing ++ after = inside ++ closingTag tag := by
    rcases List.append_eq_append_iff.1 heq with ⟨more, rfl, -⟩ | ⟨inside, hcontent, hinside⟩
    · simp at hlt
    · exact ⟨inside, hcontent, hinside⟩
  rcases List.append_eq_append_iff.1 htail with ⟨more, rfl, -⟩ | ⟨more, rfl, hmore⟩
  · exact h ⟨before, closing ++ more, rfl, closing, more, rfl, hclosing⟩
  · cases more with
    | nil =>
      refine h ⟨before, inside, rfl, inside, [], (List.append_nil _).symm, ?_⟩
      rwa [List.append_nil] at hclosing
    | cons c more =>
      obtain ⟨rfl, -⟩ := List.cons.inj hmore
      cases inside with
      | nil => simp at hlt
      | cons d inside =>
        exact lt_notMem_tail htag hclosing (List.mem_append_right _ (List.mem_cons_self ..))

theorem content?_framed (htag : IsTagName tag) {content : List Char}
    (h : ¬Occurs (ClosesHere tag) content) :
    content? tag ('<' :: (tag ++ '>' :: (content ++ closingTag tag))) = some content := by
  have hopens := opens_framed htag (content ++ closingTag tag)
  exact (content?_eq_some_iff htag).2
    ⟨[], _, _, _, .nil ⟨_, hopens⟩, hopens, firstAt_framed htag h⟩

end Framed

/-- The element with the given content. -/
def framed (e : Element) (content : String) : String :=
  "<" ++ e.tag ++ ">" ++ content ++ "</" ++ e.tag ++ ">"

theorem toList_framed (e : Element) (content : String) :
    (framed e content).toList =
      '<' :: (e.tag.toList ++ '>' :: (content.toList ++ closingTag e.tag.toList)) := by
  simp [framed, closingTag]

/-- **The text is recovered from its markup**, as its words with one space between them: reading the
element whose content is the text escaped, with any tags in it but its own closing tag, gives the
text with one space for each run of blanks and none at its ends. -/
theorem text_framed (e : Element) {s content : String} (h : MarkedUp s.toList content.toList)
    (hclosing : ¬Occurs (ClosesHere e.tag.toList) content.toList) :
    e.text (some (framed e content)) = String.ofList (Text.spaced (Text.words s.toList)) := by
  rw [Element.text_eq, elementText, Option.bind_some, toList_framed,
    content?_framed e.isTagName_tag hclosing, ← h.plainText_eq]

/-- A text that looks like an entity, behind two spaces of which one is in bold. -/
theorem text_framed_entity :
    MarkedUp "x  &lt;".toList "x <b> </b>&amp;lt;".toList ∧
      ¬Occurs (ClosesHere Element.summary.tag.toList) "x <b> </b>&amp;lt;".toList ∧
      Element.summary.text (some "<summary>x <b> </b>&amp;lt;</summary>") = "x &lt;" := by
  have hentity : MarkedUp "&lt;".toList "&amp;lt;".toList :=
    .char '&' (.char 'l' (.char 't' (.char ';' .nil)))
  have hmarked : MarkedUp "x  &lt;".toList "x <b> </b>&amp;lt;".toList :=
    .char 'x' (.char ' ' (.tag ['b'] (by decide) (.char ' '
      (.tag ['/', 'b'] (by decide) hentity))))
  have hclosing : ¬Occurs (ClosesHere Element.summary.tag.toList) "x <b> </b>&amp;lt;".toList :=
    beforeClosing_eq_none_iff.1 (by decide)
  exact ⟨hmarked, hclosing, (text_framed .summary hmarked hclosing).trans (by decide)⟩

end ConfigDocs.DocComment
