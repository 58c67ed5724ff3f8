import ConfigDocs.Proofs.Forest

/-!
# The two layouts say the same

The pages of the separate layout can be read in the order of the inline one: begin at the page of
the root, and where a row is a link, read the page it leads to before going on, unless that page
has been read already.  Putting the path to each page in front of the names on it gives a single
list of rows, the *flattening* of the forest.  This file shows that it is the inline table, row by
row.

The flattening knows nothing of types, properties or walks.  It sees file names, rows and links,
and follows the links by itself: `flattenRows` is a recursion over the rows of a page that carries
the pages that have not been entered.  The walk behind the inline table is a loop over tasks that
carries the types that are pending.  What connects the two is that the pages that have not been
entered are those of the types that are pending (`Catalog.freshPages`).  A link is followed exactly
when its target is pending (`Catalog.find?_freshPages_of_mem`), and following it takes the same
page away as the walk takes a name (`Catalog.filter_freshPages`).
-/

set_option autoImplicit false

namespace ConfigDocs

/-! ## Flattening a forest -/

/-- Whether a page goes to the file of the given name. -/
def Page.isAt (name : String) (page : Page) : Bool :=
  page.fileName == some name

theorem length_filter_isAt_lt {fresh : List Page} {target : String} {page : Page}
    (h : fresh.find? (Page.isAt target) = some page) :
    (fresh.filter fun page ↦ !page.isAt target).length < fresh.length := by
  refine List.length_filter_lt_length_iff_exists.2 ⟨page, List.mem_of_find?_eq_some h, ?_⟩
  have hat : page.isAt target = true := List.find?_some h
  rw [hat]
  exact Bool.false_ne_true

/-- The rows that rows under a path stand for, where `fresh` holds the pages that have not been
entered, together with the pages that have not been entered afterwards.  A row that begins with a
text is kept, with the path in front of it.  A row that begins with a link makes way for the rows of
the page it leads to, under a longer path, or for nothing if that page has been entered. -/
def flattenRows (fresh : List Page) (path : String) (rows : List Row) :
    { result : List Row × List Page // result.2.length ≤ fresh.length } :=
  match rows with
  | [] => ⟨([], fresh), Nat.le_refl _⟩
  | [] :: rows => flattenRows fresh path rows
  | (.text name :: details) :: rows =>
    let more := flattenRows fresh path rows
    ⟨((.text (joinPath path name) :: details) :: more.1.1, more.1.2), more.2⟩
  | (.link target name :: _) :: rows =>
    match _hpage : fresh.find? (Page.isAt target) with
    | none => flattenRows fresh path rows
    | some page =>
      let others := fresh.filter fun page ↦ !page.isAt target
      let within := flattenRows others (joinPath path name) page.document.table.rows
      let more := flattenRows within.1.2 path rows
      ⟨(within.1.1 ++ more.1.1, more.1.2),
        Nat.le_trans more.2 (Nat.le_trans within.2 (List.length_filter_le _ _))⟩
termination_by (fresh.length, rows.length)
decreasing_by
  · exact Prod.Lex.right _ (by simp)
  · exact Prod.Lex.right _ (by simp)
  · exact Prod.Lex.right _ (by simp)
  · exact Prod.Lex.left _ _ (length_filter_isAt_lt _hpage)
  · exact Prod.Lex.left _ _ (Nat.lt_of_le_of_lt within.2 (length_filter_isAt_lt _hpage))

/-- The rows that the pages of a forest stand for, read from the first one. -/
def flatten : List Page → List Row
  | [] => []
  | root :: others => (flattenRows others "" root.document.table.rows).1.1

section Steps

variable {fresh : List Page} {path : String} {rows : List Row}

theorem flattenRows_nil : (flattenRows fresh path []).1 = ([], fresh) := by
  rw [flattenRows]

theorem flattenRows_text {name : String} {details : Row} :
    (flattenRows fresh path ((.text name :: details) :: rows)).1 =
      ((.text (joinPath path name) :: details) :: (flattenRows fresh path rows).1.1,
        (flattenRows fresh path rows).1.2) := by
  rw [flattenRows]

theorem flattenRows_pass {target name : String} {details : Row}
    (h : fresh.find? (Page.isAt target) = none) :
    (flattenRows fresh path ((.link target name :: details) :: rows)).1 =
      (flattenRows fresh path rows).1 := by
  rw [flattenRows]
  split
  · rfl
  · rename_i page hpage
    rw [h] at hpage
    cases hpage

theorem flattenRows_enter {target name : String} {details : Row} {page : Page}
    {within more : List Row × List Page}
    (h : fresh.find? (Page.isAt target) = some page)
    (hwithin : (flattenRows (fresh.filter fun page ↦ !page.isAt target) (joinPath path name)
      page.document.table.rows).1 = within)
    (hmore : (flattenRows within.2 path rows).1 = more) :
    (flattenRows fresh path ((.link target name :: details) :: rows)).1 =
      (within.1 ++ more.1, more.2) := by
  subst hwithin hmore
  rw [flattenRows]
  split
  · rename_i hnone
    rw [h] at hnone
    cases hnone
  · rename_i other hother
    rw [h] at hother
    cases hother
    rfl

end Steps

namespace Catalog

variable {catalog : Catalog} {root : TypeDecl} {options : PassOptions} {ledger : Ledger}

/-! ## The pages that are left and the names that are pending -/

variable (catalog) in
/-- The pages, other than that of the root, of the types whose full names are pending. -/
def freshPages (root : TypeDecl) (options : PassOptions) (ledger : Ledger)
    (pending : List String) : List Page :=
  let names := catalog.pageNames root options ledger
  (names.filter fun entry ↦ entry.1.fullName ∈ pending).map (catalog.nestedPage names options)

/-- A page stands at the name of a type if and only if it is the page of that type. -/
theorem isAt_nestedPage {names all : List (TypeDecl × String)} (hnames : Naming names)
    {entry other : TypeDecl × String} (h : entry ∈ names) (hother : other ∈ names) :
    (catalog.nestedPage all options other).isAt (nameOf names entry.1) = true ↔
      other.1.fullName = entry.1.fullName := by
  rw [nameOf_eq_of_mem hnames.keys h, Page.isAt, beq_iff_eq, nestedPage, Option.some_inj]
  exact hnames.snd_eq_iff hother h

/-- A link to a type leads to its page as long as the type is pending. -/
theorem find?_freshPages_of_mem {target : TypeDecl} (h : target ∈ catalog.discovered root)
    {pending : List String} (hpending : target.fullName ∈ pending) :
    (catalog.freshPages root options ledger pending).find?
        (Page.isAt (nameOf (catalog.pageNames root options ledger) target)) =
      some (catalog.nestedPage (catalog.pageNames root options ledger) options
        (target, nameOf (catalog.pageNames root options ledger) target)) := by
  have hnames : Naming (catalog.pageNames root options ledger) := naming_pageNames ..
  obtain ⟨entry, hentry, rfl⟩ := exists_mem_pageNames options ledger h
  rw [freshPages, List.find?_map, Option.map_eq_some_iff]
  refine ⟨entry, ?_, by rw [nameOf_eq_of_mem hnames.keys hentry]⟩
  -- the entry is there, and no other one has its name
  cases hfind : ((catalog.pageNames root options ledger).filter fun entry ↦
      entry.1.fullName ∈ pending).find? (Page.isAt
        (nameOf (catalog.pageNames root options ledger) entry.1) ∘
          catalog.nestedPage (catalog.pageNames root options ledger) options) with
  | none =>
    have hmem : entry ∈ (catalog.pageNames root options ledger).filter fun entry ↦
        entry.1.fullName ∈ pending :=
      List.mem_filter.2 ⟨hentry, decide_eq_true hpending⟩
    exact absurd ((isAt_nestedPage hnames hentry hentry).2 rfl)
      (List.find?_eq_none.1 hfind entry hmem)
  | some other =>
    have hother := (List.mem_filter.1 (List.mem_of_find?_eq_some hfind)).1
    have hat := List.find?_some hfind
    rw [Function.comp_apply, isAt_nestedPage hnames hentry hother] at hat
    rw [List.inj_on_of_nodup_map hnames.keys hother hentry hat]

/-- When the type is not pending any more, a link to it leads nowhere. -/
theorem find?_freshPages_of_notMem {target : TypeDecl} (h : target ∈ catalog.discovered root)
    {pending : List String} (hpending : target.fullName ∉ pending) :
    (catalog.freshPages root options ledger pending).find?
        (Page.isAt (nameOf (catalog.pageNames root options ledger) target)) = none := by
  have hnames : Naming (catalog.pageNames root options ledger) := naming_pageNames ..
  obtain ⟨entry, hentry, rfl⟩ := exists_mem_pageNames options ledger h
  rw [List.find?_eq_none]
  intro page hpage hat
  obtain ⟨other, hother, rfl⟩ := List.mem_map.1 hpage
  rw [List.mem_filter, decide_eq_true_eq] at hother
  rw [isAt_nestedPage hnames hentry hother.1] at hat
  rw [hat] at hother
  exact hpending hother.2

/-- Entering the page of a type takes it away, as expanding the type takes away its name. -/
theorem filter_freshPages {target : TypeDecl} (h : target ∈ catalog.discovered root)
    {pending : List String} (hpending : pending.Nodup) :
    ((catalog.freshPages root options ledger pending).filter fun page ↦
        !page.isAt (nameOf (catalog.pageNames root options ledger) target)) =
      catalog.freshPages root options ledger (pending.erase target.fullName) := by
  have hnames : Naming (catalog.pageNames root options ledger) := naming_pageNames ..
  obtain ⟨entry, hentry, rfl⟩ := exists_mem_pageNames options ledger h
  rw [freshPages, List.filter_map, List.filter_filter, freshPages]
  refine congrArg _ (List.filter_congr fun other hother ↦ ?_)
  rw [Bool.eq_iff_iff]
  simp only [Function.comp_apply, Bool.and_eq_true, Bool.not_eq_true', ← Bool.not_eq_true,
    isAt_nestedPage hnames hentry hother, decide_eq_true_eq, hpending.mem_erase_iff]

variable (catalog) in
/-- At the beginning every page but that of the root is left. -/
theorem freshPages_othersThan (root : TypeDecl) (options : PassOptions) (ledger : Ledger) :
    ∃ page, (catalog.separatePages root options ledger).1 =
        page :: catalog.freshPages root options ledger (catalog.othersThan root) ∧
      page.document = rootDocument root options
        (catalog.separateRows (catalog.pageNames root options ledger) root) := by
  have hnames : ∃ name nested, catalog.pageNames root options ledger = (root, name) :: nested ∧
      nested.map Prod.fst =
        catalog.expansions (catalog.othersThan root) (catalog.tasksOf root "") :=
    ⟨_, _, rfl, map_fst_claimNames ..⟩
  obtain ⟨name, nested, hcons, hnested⟩ := hnames
  refine ⟨catalog.rootPage (catalog.pageNames root options ledger) options (root, name), ?_, rfl⟩
  have hkept : (catalog.pageNames root options ledger).filter
      (fun entry ↦ entry.1.fullName ∈ catalog.othersThan root) = nested := by
    rw [hcons, List.filter_cons_of_neg (by simpa using fullName_notMem_othersThan root)]
    refine List.filter_eq_self.2 fun entry hentry ↦ decide_eq_true ?_
    have hmem : entry.1 ∈ nested.map Prod.fst := List.mem_map_of_mem hentry
    rw [hnested] at hmem
    exact fullName_mem_of_mem_expansions hmem
  rw [freshPages, hkept, separatePages_eq, hcons, pagesOf]

/-! ## Flattening is walking -/

theorem separateRow_eq_text {names : List (TypeDecl × String)} {owner : TypeDecl}
    {property : Property} (h : catalog.customTarget owner property = none) :
    catalog.separateRow names owner property =
      .text property.name ::
        (PropertyEntry.ofProperty catalog owner property property.name).details :=
  separateRow_of_none h

theorem separateRow_eq_link {names : List (TypeDecl × String)} {owner target : TypeDecl}
    {property : Property} (h : catalog.customTarget owner property = some target) :
    catalog.separateRow names owner property =
      .link (nameOf names target) property.name ::
        (PropertyEntry.ofProperty catalog owner property property.name).details :=
  separateRow_of_some h

variable (catalog root options ledger) in
/-- Flattening the rows of some properties of `owner` at a path is walking their tasks: it gives the
same rows, and it leaves the pages of the types that are still pending. -/
def FlattensAsWalk (pending : List String) (path : String) (owner : TypeDecl)
    (properties : List Property) : Prop :=
  (flattenRows (catalog.freshPages root options ledger pending) path
      (properties.map (catalog.separateRow (catalog.pageNames root options ledger) owner))).1 =
    ((catalog.walkFrom pending (tasksFor owner path properties)).filterMap catalog.visitRow?,
      catalog.freshPages root options ledger
        (catalog.pendingAfter pending (tasksFor owner path properties)))

section Steps

variable {pending : List String} {path : String} {owner : TypeDecl} {property : Property}
  {properties : List Property}

theorem flattensAsWalk_nil : catalog.FlattensAsWalk root options ledger pending path owner [] := by
  rw [FlattensAsWalk, List.map_nil, flattenRows_nil, tasksFor, List.map_nil, walkFrom_nil,
    pendingAfter_nil, List.filterMap_nil]

/-- A property that stands for itself is a row on either side. -/
theorem flattensAsWalk_leaf (htarget : catalog.customTarget owner property = none)
    (h : catalog.FlattensAsWalk root options ledger pending path owner properties) :
    catalog.FlattensAsWalk root options ledger pending path owner (property :: properties) := by
  have hvisit : catalog.visitRow? (.leaf owner property (joinPath path property.name)) =
      some (.text (joinPath path property.name) ::
        (PropertyEntry.ofProperty catalog owner property property.name).details) := rfl
  rw [FlattensAsWalk] at h ⊢
  rw [List.map_cons, separateRow_eq_text htarget, flattenRows_text, h, tasksFor_cons,
    walkFrom_leaf htarget, pendingAfter_leaf htarget, List.filterMap_cons_some hvisit]

/-- A property whose target is not pending is nothing on either side. -/
theorem flattensAsWalk_skip {target : TypeDecl}
    (htarget : catalog.customTarget owner property = some target)
    (hmem : target ∈ catalog.discovered root) (hpending : target.fullName ∉ pending)
    (h : catalog.FlattensAsWalk root options ledger pending path owner properties) :
    catalog.FlattensAsWalk root options ledger pending path owner (property :: properties) := by
  rw [FlattensAsWalk] at h ⊢
  rw [List.map_cons, separateRow_eq_link htarget,
    flattenRows_pass (find?_freshPages_of_notMem hmem hpending), h, tasksFor_cons,
    walkFrom_skip htarget hpending, pendingAfter_skip htarget hpending]

/-- A property whose target is pending is what that target is, and then the properties behind it
with what is pending afterwards. -/
theorem flattensAsWalk_expand {target : TypeDecl}
    (htarget : catalog.customTarget owner property = some target)
    (hmem : target ∈ catalog.discovered root) (hnodup : pending.Nodup)
    (hpending : target.fullName ∈ pending)
    (hwithin : catalog.FlattensAsWalk root options ledger (pending.erase target.fullName)
      (joinPath path property.name) target (catalog.documentedProperties target))
    (hafter : catalog.FlattensAsWalk root options ledger
      (catalog.pendingAfter (pending.erase target.fullName)
        (catalog.tasksOf target (joinPath path property.name))) path owner properties) :
    catalog.FlattensAsWalk root options ledger pending path owner (property :: properties) := by
  rw [FlattensAsWalk] at hwithin hafter ⊢
  rw [← filter_freshPages hmem hnodup] at hwithin
  rw [List.map_cons, separateRow_eq_link htarget,
    flattenRows_enter (find?_freshPages_of_mem hmem hpending) hwithin hafter, tasksFor_cons,
    walkFrom_expand htarget hpending, pendingAfter_expand htarget hpending, walkFrom_append,
    pendingAfter_append, List.filterMap_cons_none rfl, List.filterMap_append]
  rfl

end Steps

/-- **Flattening is walking**, from whatever is pending. -/
theorem flattensAsWalk (hroot : root ∈ catalog.types) {pending : List String}
    (hnodup : pending.Nodup) (path : String) {owner : TypeDecl}
    (howner : owner ∈ catalog.discovered root) {properties : List Property}
    (hproperties : ∀ property ∈ properties, property ∈ catalog.documentedProperties owner) :
    catalog.FlattensAsWalk root options ledger pending path owner properties := by
  -- a link that is followed leaves fewer names pending; any other row leaves fewer properties
  induction hlength : pending.length using Nat.strongRecOn
    generalizing pending path owner properties with
  | ind n ih =>
    subst hlength
    induction properties with
    | nil => exact flattensAsWalk_nil
    | cons property properties ihrows =>
      rw [List.forall_mem_cons] at hproperties
      cases htarget : catalog.customTarget owner property with
      | none => exact flattensAsWalk_leaf htarget (ihrows hproperties.2)
      | some target =>
        have hmem : target ∈ catalog.discovered root :=
          mem_discovered_of_leads hroot howner ⟨property, hproperties.1, htarget⟩
        by_cases hpending : target.fullName ∈ pending
        · have hlt : (pending.erase target.fullName).length < pending.length := by
            have := List.length_pos_of_mem hpending
            rw [List.length_erase_of_mem hpending]
            omega
          refine flattensAsWalk_expand htarget hmem hnodup hpending ?_ ?_
          · exact ih _ hlt (hnodup.erase _) _ hmem (fun _ h ↦ h) rfl
          · refine ih _ ?_ (pendingAfter_nodup (hnodup.erase _) _) path howner hproperties.2 rfl
            exact Nat.lt_of_le_of_lt (length_pendingAfter_le ..) hlt
        · exact flattensAsWalk_skip htarget hmem hpending (ihrows hproperties.2)

/-- **The inline table is the flattening of the forest.** -/
theorem inlineRows_eq_flatten (hroot : root ∈ catalog.types) (options : PassOptions)
    (ledger : Ledger) :
    catalog.inlineRows root = flatten (catalog.separatePages root options ledger).1 := by
  obtain ⟨page, hforest, hdocument⟩ := catalog.freshPages_othersThan root options ledger
  have hwalk : catalog.FlattensAsWalk root options ledger (catalog.othersThan root) "" root
      (catalog.documentedProperties root) :=
    flattensAsWalk hroot (nodup_othersThan root) "" (List.mem_cons_self ..) fun _ h ↦ h
  have hrows : page.document.table.rows = (catalog.documentedProperties root).map
      (catalog.separateRow (catalog.pageNames root options ledger) root) := by
    rw [hdocument]
    rfl
  rw [hforest, flatten, hrows, hwalk, inlineRows_eq_walk]
  rfl

-- the link from the pool back to the server is not followed
example :
    (flatten (circle.separatePages server ⟨.markdown, "docs", .separate, false⟩ .empty).1).map
      List.head? = [some (.text "Fallback:Size"), some (.text "Port")] := by
  rw [← inlineRows_eq_flatten (List.mem_cons_self ..), inlineRows_eq_walk]
  cbv

/-! ## Where nothing is expanded -/

/-- Tasks that all stand for themselves are visited one after the other. -/
theorem walkFrom_of_leaves (pending : List String) {tasks : List Task}
    (h : ∀ task ∈ tasks, catalog.customTarget task.owner task.property = none) :
    catalog.walkFrom pending tasks =
      tasks.map fun task ↦
        .leaf task.owner task.property (joinPath task.path task.property.name) := by
  induction tasks with
  | nil => rw [walkFrom_nil, List.map_nil]
  | cons task tasks ih =>
    rw [List.forall_mem_cons] at h
    rw [walkFrom_leaf h.1, ih h.2, List.map_cons]

section Leaves

variable (h : ∀ property ∈ catalog.documentedProperties root,
  catalog.customTarget root property = none)

include h

theorem walk_of_leaves : catalog.walk root =
    (catalog.documentedProperties root).map fun property ↦ .leaf root property property.name := by
  rw [walk, walkFrom_of_leaves, tasksOf, tasksFor, List.map_map]
  · refine List.map_congr_left fun property _ ↦ ?_
    simp only [Function.comp_apply, joinPath_empty]
  · intro task htask
    obtain ⟨howner, -, hproperty⟩ := mem_tasksOf.1 htask
    rw [howner]
    exact h _ hproperty

theorem inlineRows_of_leaves (names : List (TypeDecl × String)) :
    catalog.inlineRows root = catalog.separateRows names root := by
  rw [inlineRows_eq_walk, walk_of_leaves h, List.filterMap_map, separateRows,
    ← List.filterMap_eq_map]
  refine List.filterMap_congr fun property hproperty ↦ ?_
  rw [Function.comp_apply, Function.comp_apply, separateRow_of_none (h property hproperty)]
  rfl

theorem discovered_of_leaves : catalog.discovered root = [root] := by
  rw [discovered, walk_of_leaves h, List.filterMap_map]
  simp [Function.comp_def, Visit.expanded?]

/-- The page of the root is then the only one, and says what the inline page says. -/
theorem separatePages_of_leaves (options : PassOptions) (ledger : Ledger) :
    (catalog.separatePages root options ledger).1.map Page.document =
      [(catalog.inlinePage root options).document] := by
  obtain ⟨page, hforest, hdocument⟩ := catalog.freshPages_othersThan root options ledger
  have hsubjects : (catalog.separatePages root options ledger).1.map Page.subject =
      catalog.discovered root := map_subject_separatePages root options ledger
  rw [discovered_of_leaves h, hforest, List.map_cons, List.cons.injEq, List.map_eq_nil_iff]
    at hsubjects
  rw [hforest, hsubjects.2, List.map_singleton, hdocument,
    ← inlineRows_of_leaves h (catalog.pageNames root options ledger)]
  rfl

end Leaves

/-- **The two layouts agree.**  The inline table is the flattening of the forest, the page of the
root is headed as the inline page is, and where no property of the root has a custom target the two
layouts make the same document. -/
theorem layouts_agree (hroot : root ∈ catalog.types) (options : PassOptions) (ledger : Ledger) :
    (catalog.inlinePage root options).document.table.rows =
        flatten (catalog.separatePages root options ledger).1 ∧
      (∃ page nested, (catalog.separatePages root options ledger).1 = page :: nested ∧
        page.document.title = (catalog.inlinePage root options).document.title ∧
        page.document.subtitle = (catalog.inlinePage root options).document.subtitle ∧
        page.document.summary = (catalog.inlinePage root options).document.summary ∧
        page.document.table.header = (catalog.inlinePage root options).document.table.header) ∧
      ((∀ property ∈ catalog.documentedProperties root,
          catalog.customTarget root property = none) →
        (catalog.separatePages root options ledger).1.map Page.document =
          [(catalog.inlinePage root options).document]) := by
  refine ⟨inlineRows_eq_flatten hroot options ledger, ?_, ?_⟩
  · obtain ⟨page, hforest, hdocument⟩ := catalog.freshPages_othersThan root options ledger
    refine ⟨page, _, hforest, ?_⟩
    rw [hdocument]
    exact ⟨rfl, rfl, rfl, rfl⟩
  · exact fun h ↦ separatePages_of_leaves h options ledger

/-- The table of a server, read off its page and that of its pool. -/
theorem layouts_agree_circle :
    server ∈ circle.types ∧
      (circle.inlinePage server ⟨.markdown, "docs", .separate, false⟩).document.table.rows =
        flatten (circle.separatePages server ⟨.markdown, "docs", .separate, false⟩ .empty).1 :=
  ⟨List.mem_cons_self ..,
    (layouts_agree (List.mem_cons_self ..) ⟨.markdown, "docs", .separate, false⟩ .empty).1⟩

end Catalog

end ConfigDocs
