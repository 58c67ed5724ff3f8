import Mathlib.Data.List.Forall2
import ConfigDocs.Generation.Plan
import ConfigDocs.Proofs.Recursion
import ConfigDocs.Proofs.Walk

/-!
# The pages of the separate layout

The separate layout makes a forest: one page for every type the walk discovers, each with a file
name of its own, and links from page to page.  Two things are shown about it, for every catalogue,
every root in it, all settings and whatever names are taken beforehand.

* The forest is complete (`Catalog.CompleteForest`): the pages are those of the types that can be
  reached from the root, each once and the root first, and their names are new and differ up to
  letter case.
* Its links are right (`Catalog.LinkedForest`): the page of the root comes first, the rows of a page
  are those of the documented properties of its type, in order, and a link always leads to the page
  of the type the property expands into.  So no link dangles, every page but the first is linked
  from a page before it, and in the plan of a pass there is a file at the place each link points to.

What the layout does step by step has been put together in `Catalog.separatePages_eq`: its pages are
those of the types the walk discovers, with names claimed in the order of discovery.  So what is
said here of types comes from the walk, and what is said of names from claiming them
(`Catalog.naming_pageNames`).
-/

set_option autoImplicit false

namespace ConfigDocs

/-- Some row of a page begins with a link to the file of another page. -/
def Page.LinksTo (page other : Page) : Prop :=
  ∃ row ∈ page.document.table.rows, ∃ name text details,
    row = .link name text :: details ∧ other.fileName = some name

namespace Catalog

variable {catalog : Catalog}

/-! ## The names and the types of a forest -/

theorem map_fst_pageNames (root : TypeDecl) (options : PassOptions) (ledger : Ledger) :
    (catalog.pageNames root options ledger).map Prod.fst = catalog.discovered root :=
  map_fst_claimNames options ledger _

theorem naming_pageNames (root : TypeDecl) (options : PassOptions) (ledger : Ledger) :
    Naming (catalog.pageNames root options ledger) where
  keys := by
    have h : ((catalog.discovered root).map TypeDecl.fullName).Nodup := nodup_discovered root
    rw [← map_fst_pageNames root options ledger, List.map_map] at h
    exact h
  values := by
    have h := nodup_claimNames options ledger (catalog.discovered root)
    refine List.Nodup.of_map Text.toLowerAscii ?_
    rw [List.map_map]
    exact h

theorem exists_mem_pageNames {root t : TypeDecl} (options : PassOptions) (ledger : Ledger)
    (h : t ∈ catalog.discovered root) :
    ∃ entry ∈ catalog.pageNames root options ledger, entry.1 = t := by
  rw [← map_fst_pageNames root options ledger] at h
  exact List.mem_map.1 h

section SeparatePages

variable {root : TypeDecl} {options : PassOptions} {ledger : Ledger}

theorem map_subject_separatePages (root : TypeDecl) (options : PassOptions) (ledger : Ledger) :
    (catalog.separatePages root options ledger).1.map Page.subject = catalog.discovered root := by
  rw [separatePages_eq, map_subject_pagesOf, map_fst_pageNames]

theorem mem_discovered_of_mem_pages {page : Page}
    (h : page ∈ (catalog.separatePages root options ledger).1) :
    page.subject ∈ catalog.discovered root := by
  rw [← map_subject_separatePages root options ledger]
  exact List.mem_map_of_mem h

theorem exists_isPageOf {page : Page} (h : page ∈ (catalog.separatePages root options ledger).1) :
    ∃ entry ∈ catalog.pageNames root options ledger,
      catalog.IsPageOf (catalog.pageNames root options ledger) entry page := by
  rw [separatePages_eq] at h
  exact exists_entry_of_mem_pagesOf h

theorem nodup_subject_separatePages (root : TypeDecl) (options : PassOptions) (ledger : Ledger) :
    ((catalog.separatePages root options ledger).1.map Page.subject).Nodup := by
  rw [map_subject_separatePages]
  exact (nodup_discovered root).of_map _

end SeparatePages

/-! ## The forest is complete -/

variable (catalog) in
/-- A forest documents everything that can be reached from a root, under names that were claimed
for it: `ledger` is what was claimed before, and `after` what is claimed with it. -/
structure CompleteForest (root : TypeDecl) (ledger after : Ledger) (forest : List Page) :
    Prop where
  /-- The root comes first. -/
  head : (forest.map Page.subject).head? = some root
  /-- No type has two pages. -/
  nodup : (forest.map Page.subject).Nodup
  /-- A type has a page if and only if it can be reached from the root. -/
  mem_iff : ∀ t, t ∈ forest.map Page.subject ↔ catalog.Reachable root t
  /-- Every page has a file name, no two of them the same up to letter case, and each of them was
  free before and is claimed afterwards. -/
  named : ∃ names : List String, forest.map Page.fileName = names.map some ∧
    (names.map Text.toLowerAscii).Nodup ∧
    ∀ name ∈ names, ledger.contains name = false ∧ after.contains name = true
  /-- What was claimed before still is. -/
  kept : ∀ name, ledger.contains name = true → after.contains name = true
  /-- As many names are new as there are pages. -/
  size : after.size = ledger.size + forest.length

/-- **The forest of a root is complete.** -/
theorem separatePages_complete {root : TypeDecl} (hroot : root ∈ catalog.types)
    (options : PassOptions) (ledger : Ledger) :
    catalog.CompleteForest root ledger (catalog.separatePages root options ledger).2
      (catalog.separatePages root options ledger).1 := by
  have hsubjects : (catalog.separatePages root options ledger).1.map Page.subject =
      catalog.discovered root := map_subject_separatePages root options ledger
  have hledger : (catalog.separatePages root options ledger).2 =
      (claimNames options ledger (catalog.discovered root)).2 := by rw [separatePages_eq]
  constructor
  · rw [hsubjects]
    rfl
  · exact nodup_subject_separatePages root options ledger
  · intro t
    rw [hsubjects]
    exact mem_discovered_iff hroot
  · refine ⟨(catalog.pageNames root options ledger).map Prod.snd, ?_, ?_, ?_⟩
    · rw [separatePages_eq, map_fileName_pagesOf]
    · rw [List.map_map]
      exact nodup_claimNames options ledger _
    · intro name hname
      obtain ⟨entry, hentry, rfl⟩ := List.mem_map.1 hname
      rw [hledger]
      exact ⟨contains_of_mem_claimNames options hentry,
        (contains_claimNames options).2 (Or.inr ⟨entry, hentry, rfl⟩)⟩
  · intro name hname
    rw [hledger]
    exact (contains_claimNames options).2 (Or.inl hname)
  · have hlength := congrArg List.length hsubjects
    rw [List.length_map] at hlength
    rw [hlength, hledger]
    exact size_claimNames options ledger _

/-- The pages of a server and its pool, where another file has the name of the server already. -/
theorem separatePages_complete_circle :
    server ∈ circle.types ∧
      circle.CompleteForest server ⟨["server.md"]⟩
        (circle.separatePages server ⟨.markdown, "docs", .separate, false⟩ ⟨["server.md"]⟩).2
        (circle.separatePages server ⟨.markdown, "docs", .separate, false⟩ ⟨["server.md"]⟩).1 :=
  ⟨List.mem_cons_self .., separatePages_complete (List.mem_cons_self ..) _ _⟩

/-! ## Links lead to the right page -/

variable (catalog) in
/-- What a row says about a property of `owner`.  It has five cells, and the last four are texts.
The first names the property: as a text if it stands for itself, and otherwise as a link to the one
page of the forest that documents the type it expands into. -/
inductive RowFor (forest : List Page) (owner : TypeDecl) (property : Property) : Row → Prop
  | text (h : catalog.customTarget owner property = none) :
      RowFor forest owner property
        [.text property.name, .text property.type.display,
          .text (catalog.defaultValue owner property), .text (catalog.exampleValue owner property),
          .text (DocComment.summary property.documentation)]
  | link {target : TypeDecl} {name : String}
      (h : catalog.customTarget owner property = some target)
      (hpage : ∃! page, page ∈ forest ∧ page.subject = target)
      (hname : ∀ page ∈ forest, page.fileName = some name ↔ page.subject = target) :
      RowFor forest owner property
        [.link name property.name, .text property.type.display,
          .text (catalog.defaultValue owner property), .text (catalog.exampleValue owner property),
          .text (DocComment.summary property.documentation)]

variable (catalog) in
/-- The links of the forest of a root lead to the pages they should lead to. -/
structure LinkedForest (root : TypeDecl) (forest : List Page) : Prop where
  /-- The page of the root comes first. -/
  head : (forest.map Page.subject).head? = some root
  /-- The rows of a page are those of the documented properties of its type, in order. -/
  rows : ∀ page ∈ forest,
    List.Forall₂ (catalog.RowFor forest page.subject) (catalog.documentedProperties page.subject)
      page.document.table.rows
  /-- Every page but the first is linked from a page before it. -/
  linked : ∀ before page after, forest = before ++ page :: after → before ≠ [] →
    ∃ earlier ∈ before, earlier.LinksTo page

section Links

variable {root : TypeDecl} {options : PassOptions} {ledger : Ledger}

/-- A discovered type has one page. -/
theorem existsUnique_page {target : TypeDecl} (h : target ∈ catalog.discovered root) :
    ∃! page, page ∈ (catalog.separatePages root options ledger).1 ∧ page.subject = target := by
  have hmem := h
  rw [← map_subject_separatePages root options ledger] at hmem
  obtain ⟨page, hpage, hsubject⟩ := List.mem_map.1 hmem
  refine ⟨page, ⟨hpage, hsubject⟩, fun other hother ↦ ?_⟩
  exact List.inj_on_of_nodup_map (nodup_subject_separatePages root options ledger) hother.1 hpage
    (hother.2.trans hsubject.symm)

/-- The pages at the name of a discovered type are the pages of that type. -/
theorem fileName_eq_iff (hroot : root ∈ catalog.types) {target : TypeDecl}
    (h : target ∈ catalog.discovered root) {page : Page}
    (hpage : page ∈ (catalog.separatePages root options ledger).1) :
    page.fileName = some (nameOf (catalog.pageNames root options ledger) target) ↔
      page.subject = target := by
  have hnaming : Naming (catalog.pageNames root options ledger) :=
    naming_pageNames root options ledger
  have hsubject := mem_types_of_mem_discovered hroot (mem_discovered_of_mem_pages hpage)
  obtain ⟨entry, hentry, rfl⟩ := exists_mem_pageNames options ledger h
  obtain ⟨other, hother, hof⟩ := exists_isPageOf hpage
  rw [nameOf_eq_of_mem hnaming.keys hentry, hof.fileName, Option.some_inj,
    hnaming.snd_eq_iff hother hentry, ← hof.subject]
  exact ⟨eq_of_fullName_eq hsubject (mem_types_of_mem_discovered hroot h), congrArg _⟩

theorem rowFor_separateRow (hroot : root ∈ catalog.types) {owner : TypeDecl}
    (howner : owner ∈ catalog.discovered root) {property : Property}
    (hproperty : property ∈ catalog.documentedProperties owner) :
    catalog.RowFor (catalog.separatePages root options ledger).1 owner property
      (catalog.separateRow (catalog.pageNames root options ledger) owner property) := by
  rw [separateRow]
  cases htarget : catalog.customTarget owner property with
  | none => exact RowFor.text htarget
  | some target =>
    have hmem : target ∈ catalog.discovered root :=
      mem_discovered_of_leads hroot howner ⟨property, hproperty, htarget⟩
    exact RowFor.link htarget (existsUnique_page hmem) fun _ hpage ↦
      fileName_eq_iff hroot hmem hpage

/-- If a type leads to another one, its page links to the page of that other. -/
theorem linksTo_of_leads (hroot : root ∈ catalog.types) {page other : Page}
    (hpage : page ∈ (catalog.separatePages root options ledger).1)
    (hother : other ∈ (catalog.separatePages root options ledger).1)
    (h : catalog.Leads page.subject other.subject) : page.LinksTo other := by
  obtain ⟨entry, hentry, hof⟩ := exists_isPageOf hpage
  obtain ⟨property, hproperty, htarget⟩ := h
  rw [hof.subject] at hproperty htarget
  refine ⟨_, ?_, nameOf (catalog.pageNames root options ledger) other.subject, property.name,
    (PropertyEntry.ofProperty catalog entry.1 property property.name).details, rfl, ?_⟩
  · rw [hof.rows, separateRows]
    refine List.mem_map.2 ⟨property, hproperty, ?_⟩
    rw [separateRow, htarget]
    rfl
  · exact (fileName_eq_iff hroot (mem_discovered_of_mem_pages hother) hother).2 rfl

/-- **The links of the forest of a root lead to the right pages.** -/
theorem separatePages_linkedForest (hroot : root ∈ catalog.types) :
    catalog.LinkedForest root (catalog.separatePages root options ledger).1 where
  head := by
    rw [map_subject_separatePages]
    rfl
  rows := by
    intro page hpage
    obtain ⟨entry, hentry, hof⟩ := exists_isPageOf hpage
    have hmem := mem_discovered_of_mem_pages hpage
    rw [hof.rows, separateRows, ← hof.subject, List.forall₂_map_right_iff, List.forall₂_same]
    exact fun property hproperty ↦ rowFor_separateRow hroot hmem hproperty
  linked := by
    intro before page after hforest hbefore
    have hsubjects : catalog.discovered root =
        before.map Page.subject ++ page.subject :: after.map Page.subject := by
      rw [← map_subject_separatePages root options ledger, hforest, List.map_append, List.map_cons]
    obtain ⟨s, hs, hleads⟩ := exists_leads_of_discovered_eq hsubjects (by simpa using hbefore)
    obtain ⟨earlier, hearlier, rfl⟩ := List.mem_map.1 hs
    have hfirst : earlier ∈ (catalog.separatePages root options ledger).1 := by
      rw [hforest]
      exact List.mem_append_left _ hearlier
    have hsecond : page ∈ (catalog.separatePages root options ledger).1 := by
      rw [hforest]
      exact List.mem_append_right _ (List.mem_cons_self ..)
    exact ⟨earlier, hearlier, linksTo_of_leads hroot hfirst hsecond hleads⟩

end Links

/-! ## Links in the plan of a pass -/

/-- A link in a row is the file name of a page of the forest. -/
theorem RowFor.exists_page {forest : List Page} {owner : TypeDecl} {property : Property} {row : Row}
    (h : catalog.RowFor forest owner property row) {link text : String}
    (hcell : Cell.link link text ∈ row) : ∃ page ∈ forest, page.fileName = some link := by
  cases h with
  | text => simp at hcell
  | @link target name _ hpage hname =>
    obtain ⟨page, ⟨hmem, hsubject⟩, -⟩ := hpage
    obtain ⟨rfl, -⟩ : link = name ∧ text = property.name := by simpa using hcell
    exact ⟨page, hmem, (hname page hmem).2 hsubject⟩

theorem exists_page_of_link {root : TypeDecl} {options : PassOptions} {ledger : Ledger}
    (hroot : root ∈ catalog.types) {page : Page}
    (hpage : page ∈ (catalog.separatePages root options ledger).1) {row : Row}
    (hrow : row ∈ page.document.table.rows) {link text : String}
    (hcell : Cell.link link text ∈ row) :
    ∃ other ∈ (catalog.separatePages root options ledger).1, other.fileName = some link := by
  have hmem := mem_discovered_of_mem_pages hpage
  obtain ⟨entry, -, hof⟩ := exists_isPageOf hpage
  rw [hof.rows, separateRows, ← hof.subject] at hrow
  obtain ⟨property, hproperty, rfl⟩ := List.mem_map.1 hrow
  exact (rowFor_separateRow hroot hmem hproperty).exists_page hcell

/-- The inline layout makes no links. -/
theorem notMem_inlineRows {root : TypeDecl} {row : Row} (hrow : row ∈ catalog.inlineRows root)
    (link text : String) : Cell.link link text ∉ row := by
  rw [inlineRows_eq_walk] at hrow
  obtain ⟨visit, -, hvisit⟩ := List.mem_filterMap.1 hrow
  cases visit with
  | leaf owner property path =>
    cases hvisit
    simp [PropertyEntry.row, PropertyEntry.details]
  | expand target => cases hvisit

end Catalog

namespace Project

/-- A page with a file name of its own goes there, in the directory of the target. -/
theorem mem_renderPages {target : OutputTarget} {options : PassOptions} {ledger : Ledger}
    {pages : List Page} {page : Page} {name : String} (hpage : page ∈ pages)
    (hname : page.fileName = some name) :
    ⟨target.home.join ⟨name⟩, page.document.render options.format⟩ ∈
      renderPages target options ledger pages := by
  induction pages generalizing ledger with
  | nil => cases hpage
  | cons first pages ih =>
    rw [renderPages, List.mem_cons]
    rcases List.mem_cons.1 hpage with rfl | hpage
    · left
      simp only [pagePath, hname]
    · exact Or.inr (ih hpage)

/-- **The links of the separate layout lead to the right pages, and to files of the pass.**  In the
plan of a pass there is a file where a link points to, as seen from the directory of the target. -/
theorem separatePages_linked (project : Project) {root : TypeDecl}
    (hroot : root ∈ project.catalog.types) (options : PassOptions) (ledger : Ledger) :
    project.catalog.LinkedForest root (project.catalog.separatePages root options ledger).1 ∧
      ∀ (target : OutputTarget), ∀ page ∈ (project.catalog.pages root options .empty).1,
        ∀ row ∈ page.document.table.rows, ∀ link text, Cell.link link text ∈ row →
          ∃ file ∈ (project.planFor root options target).files,
            file.path = target.home.join ⟨link⟩ := by
  refine ⟨Catalog.separatePages_linkedForest hroot, ?_⟩
  intro target page hpage row hrow link text hcell
  cases hlayout : options.layout with
  | inline =>
    rw [Catalog.pages, hlayout, List.mem_singleton] at hpage
    subst hpage
    exact absurd hcell (Catalog.notMem_inlineRows hrow link text)
  | separate =>
    have hpages : project.catalog.pages root options .empty =
        project.catalog.separatePages root options .empty := by
      rw [Catalog.pages, hlayout]
    rw [hpages] at hpage
    obtain ⟨other, hother, hname⟩ := Catalog.exists_page_of_link hroot hpage hrow hcell
    rw [← hpages] at hother
    exact ⟨_, mem_renderPages hother hname, rfl⟩

/-- The links between a server and its pool. -/
theorem separatePages_linked_circle :
    Catalog.server ∈ Catalog.circle.types ∧
      Catalog.circle.LinkedForest Catalog.server
        (Catalog.circle.separatePages Catalog.server ⟨.html, "docs", .separate, true⟩ .empty).1 :=
  ⟨List.mem_cons_self ..,
    (separatePages_linked ⟨Catalog.circle, ⟨""⟩, none⟩ (List.mem_cons_self ..)
      ⟨.html, "docs", .separate, true⟩ .empty).1⟩

end Project

end ConfigDocs
