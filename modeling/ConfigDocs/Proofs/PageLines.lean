import ConfigDocs.Proofs.CommentText
import ConfigDocs.Proofs.Forest
import ConfigDocs.Proofs.InlineTable

/-!
# What comes out of a comment stays on its line

Two formats print the summary of a page as it is, and a table row has to be one line, so nothing
that is read out of a comment may break a line.  It does not, whatever the comment is: blanks are
normalised last, after everything that could put a line break there, and what is normalised has no
blanks but single spaces between its words (`DocComment.Element.oneSpaced_text`).

In a page that concerns the summary of its type and, in every row, the description, and the example
where it is the one that the comment gives (`Page.KeepsLines`).
-/

set_option autoImplicit false

namespace ConfigDocs

namespace Text

/-- The characters that end a line. -/
def lineBreaks : List Char :=
  ['\n', '\x0b', '\x0c', '\r', '\x85', '\u2028', '\u2029']

/-- The text is one line. -/
def Unbroken (s : String) : Prop :=
  ∀ c ∈ lineBreaks, c ∉ s.toList

/-- Every character that ends a line is blank, and no space. -/
theorem OneSpaced.unbroken {s : String} (h : OneSpaced s.toList) : Unbroken s := by
  intro c hc hmem
  have hblanks : (lineBreaks.all fun c ↦ isBlank c && c != ' ') = true := by decide
  have hblank := List.all_eq_true.1 hblanks c hc
  rw [Bool.and_eq_true, bne_iff_ne] at hblank
  exact hblank.2 (h.blank c hmem hblank.1)

end Text

namespace DocComment

open Text (OneSpaced Unbroken)

theorem Element.oneSpaced_text (e : Element) (xml : Option String) :
    OneSpaced (e.text xml).toList := by
  rw [Element.text_eq, elementText]
  cases xml.bind fun text ↦ content? e.tag.toList text.toList with
  | none => exact Text.oneSpaced_nil
  | some content =>
    rw [String.toList_ofList, plainText]
    exact Text.oneSpaced_normalizeBlanks _

theorem unbroken_summary (xml : Option String) : Unbroken (summary xml) :=
  (Element.summary.oneSpaced_text xml).unbroken

theorem unbroken_sample (xml : Option String) : Unbroken (sample xml) :=
  (Element.sample.oneSpaced_text xml).unbroken

end DocComment

/-! ## Pages -/

open Text (Unbroken OneSpaced)
open DocComment (Element tagPattern dropTags)

/-- The row says about a property, behind its name, its type, its default value, an example and what
it is for.  The last is one line, and so is the example if the comment gives one. -/
inductive Catalog.RowKeepsLines (catalog : Catalog) : Row → Prop
  | row (name : Cell) {owner : TypeDecl} {property : Property}
      (hproperty : property ∈ catalog.documentedProperties owner)
      (hdescription : Unbroken (DocComment.summary property.documentation))
      (hexample : DocComment.sample property.documentation ≠ "" →
        catalog.exampleValue owner property = DocComment.sample property.documentation ∧
          Unbroken (catalog.exampleValue owner property)) :
      RowKeepsLines catalog
        [name, .text property.type.display, .text (catalog.defaultValue owner property),
          .text (catalog.exampleValue owner property),
          .text (DocComment.summary property.documentation)]

/-- What the page says out of a comment is one line wherever it stands. -/
structure Page.KeepsLines (catalog : Catalog) (page : Page) : Prop where
  /-- The summary is what the comment says the type is for. -/
  summary : page.document.summary = some (DocComment.summary page.subject.documentation)
  /-- It is one line. -/
  unbroken : Unbroken (DocComment.summary page.subject.documentation)
  /-- So is what the rows say out of the comments of their properties. -/
  rows : ∀ row ∈ page.document.table.rows, catalog.RowKeepsLines row

namespace Catalog

variable {catalog : Catalog}

/-- The example of a property is the one its comment gives, if it gives one. -/
theorem exampleValue_of_sample {owner : TypeDecl} {property : Property}
    (h : DocComment.sample property.documentation ≠ "") :
    catalog.exampleValue owner property = DocComment.sample property.documentation := by
  rw [exampleValue, if_neg (mt String.isEmpty_iff.1 h)]

theorem rowKeepsLines {owner : TypeDecl} {property : Property}
    (hproperty : property ∈ catalog.documentedProperties owner) (name : Cell) (path : String) :
    catalog.RowKeepsLines
      (name :: (PropertyEntry.ofProperty catalog owner property path).details) :=
  .row name hproperty (DocComment.unbroken_summary _) fun h ↦
    ⟨exampleValue_of_sample h, exampleValue_of_sample h ▸ DocComment.unbroken_sample _⟩

theorem keepsLines_inlinePage (root : TypeDecl) (options : PassOptions) :
    (catalog.inlinePage root options).KeepsLines catalog where
  summary := rfl
  unbroken := DocComment.unbroken_summary _
  rows := by
    show ∀ row ∈ catalog.inlineRows root, catalog.RowKeepsLines row
    rw [inlineRows_eq_map]
    intro row hrow
    obtain ⟨leaf, hleaf, rfl⟩ := List.mem_map.1 hrow
    obtain ⟨-, -, hstanding, -⟩ := endsRoute_of_mem_leaves hleaf
    exact rowKeepsLines (List.mem_of_mem_filter hstanding) _ _

theorem rowKeepsLines_separateRow (names : List (TypeDecl × String)) {t : TypeDecl}
    {property : Property} (hproperty : property ∈ catalog.documentedProperties t) :
    catalog.RowKeepsLines (catalog.separateRow names t property) := by
  rw [separateRow]
  split
  · exact rowKeepsLines hproperty _ _
  · exact rowKeepsLines hproperty _ _

/-- Of the pages of a forest, the first has another heading than the rest, but all say the same. -/
theorem keepsLines_of_mem_pagesOf {options : PassOptions} {names : List (TypeDecl × String)}
    {page : Page} (h : page ∈ catalog.pagesOf options names) : page.KeepsLines catalog := by
  have hsummary :
      page.document.summary = some (DocComment.summary page.subject.documentation) := by
    cases names with
    | nil => cases h
    | cons root nested =>
      rcases List.mem_cons.1 h with rfl | h
      · rfl
      · obtain ⟨entry, -, rfl⟩ := List.mem_map.1 h
        rfl
  obtain ⟨entry, -, hof⟩ := exists_entry_of_mem_pagesOf h
  refine ⟨hsummary, DocComment.unbroken_summary _, fun row hrow ↦ ?_⟩
  rw [hof.rows, separateRows] at hrow
  obtain ⟨property, hproperty, rfl⟩ := List.mem_map.1 hrow
  exact rowKeepsLines_separateRow names hproperty

theorem keepsLines_of_mem_pages {root : TypeDecl} {options : PassOptions} {ledger : Ledger}
    {page : Page} (h : page ∈ (catalog.pages root options ledger).1) : page.KeepsLines catalog := by
  rw [pages] at h
  split at h
  · rw [List.mem_singleton.1 h]
    exact keepsLines_inlinePage root options
  · simp only [separatePages_eq] at h
    exact keepsLines_of_mem_pagesOf h

end Catalog

/-! ## Whatever the comment is -/

/-- **What is read out of a comment is words with single spaces between them**, so that on every
page it stays on its line.  No `<` is left in it with a `>` behind it when the tags are gone, though
one may come back where the entities are replaced. -/
theorem DocComment.text_keepsLines :
    (∀ (e : Element) (xml : Option String), OneSpaced (e.text xml).toList) ∧
      (∀ (catalog : Catalog) (root : TypeDecl) (options : PassOptions) (ledger : Ledger),
        ∀ page ∈ (catalog.pages root options ledger).1, page.KeepsLines catalog) ∧
      ∀ content, dropTags false content = tagPattern.replaceAll [] content ∧
        ∀ before after, dropTags false content = before ++ '<' :: after → '>' ∉ after :=
  ⟨Element.oneSpaced_text, fun _ _ _ _ _ ↦ Catalog.keepsLines_of_mem_pages,
    fun content ↦ ⟨(replaceAll_tagPattern content).symm, fun _ _ ↦ notMem_of_dropTags_eq⟩⟩

end ConfigDocs
