import ConfigDocs.Proofs.Recursion
import ConfigDocs.Proofs.Walk

/-!
# The rows of the inline table

The inline layout puts everything that can be reached from a root into one table.  This file says
which rows that are: one for each property that stands for itself in a type within reach, and no
others.

A row shows the property and the path it goes by, but not the type that declares it, and two rows
may look the same.  So the statement is not about the rows as such but about the *leaves* behind
them, in the same order: a leaf is a property together with its owner and its path.  That no
property is missing and none comes twice is then an equation between lists, for each type
separately, which also says that the rows of a type keep the order of declaration.
-/

set_option autoImplicit false

namespace ConfigDocs

/-- A property that stands for itself, as it appears in the inline table. -/
structure Leaf where
  /-- Type that declares the property. -/
  owner : TypeDecl
  /-- The property. -/
  property : Property
  /-- The path it goes by. -/
  path : String

/-- The row of a leaf. -/
def Leaf.row (catalog : Catalog) (leaf : Leaf) : Row :=
  (PropertyEntry.ofProperty catalog leaf.owner leaf.property leaf.path).row

/-- The leaf a visit is to, if it is to one. -/
def Visit.leaf? : Visit → Option Leaf
  | .leaf owner property path => some ⟨owner, property, path⟩
  | .expand _ => none

namespace Catalog

variable {catalog : Catalog}

/-! ## Leaves and rows -/

variable (catalog) in
/-- The leaves the walk from a root comes to, in order. -/
def leaves (root : TypeDecl) : List Leaf :=
  (catalog.walk root).filterMap Visit.leaf?

theorem inlineRows_eq_map (root : TypeDecl) :
    catalog.inlineRows root = (catalog.leaves root).map (Leaf.row catalog) := by
  rw [inlineRows_eq_walk, leaves, List.map_filterMap]
  refine List.filterMap_congr fun visit _ ↦ ?_
  cases visit <;> rfl

/-- The properties of one owner among the leaves are the visits to that owner. -/
theorem map_property_leaves (root t : TypeDecl) :
    ((catalog.leaves root).filter fun leaf ↦ leaf.owner = t).map Leaf.property =
      (catalog.walk root).filterMap (Visit.leafOf? t) := by
  rw [leaves, List.filter_filterMap, List.map_filterMap]
  refine List.filterMap_congr fun visit _ ↦ ?_
  cases visit with
  | leaf owner property path =>
    by_cases h : owner = t
    · simp [Visit.leaf?, Visit.leafOf?, h]
    · simp [Visit.leaf?, Visit.leafOf?, h]
  | expand target => rfl

theorem endsRoute_of_mem_leaves {root : TypeDecl} {leaf : Leaf}
    (h : leaf ∈ catalog.leaves root) :
    ∃ names, catalog.Route root names leaf.owner ∧ leaf.property ∈ catalog.standing leaf.owner ∧
      leaf.path = joinNames (names ++ [leaf.property.name]) := by
  obtain ⟨visit, hvisit, hleaf⟩ := List.mem_filterMap.1 h
  have hends := endsRoute_of_mem_walk hvisit
  cases visit with
  | leaf owner property path =>
    cases hleaf
    exact hends
  | expand target => cases hleaf

/-! ## The table is complete -/

variable (catalog) in
/-- Rows are those of the given leaves, and these are all that can be reached from a root. -/
structure CompleteTable (root : TypeDecl) (rows : List Row) (leaves : List Leaf) : Prop where
  /-- There is one row for each leaf, in the same order. -/
  rows_eq : rows = leaves.map (Leaf.row catalog)
  /-- Every row has five cells. -/
  cells : ∀ row ∈ rows, row.length = 5
  /-- A leaf is a property that stands for itself in a type within reach. -/
  within : ∀ leaf ∈ leaves,
    catalog.Reachable root leaf.owner ∧ leaf.property ∈ catalog.standing leaf.owner
  /-- The path of a leaf is joined from the names along a chain of properties from the root to its
  owner, and its own name. -/
  path : ∀ leaf ∈ leaves, ∃ names, catalog.Route root names leaf.owner ∧
    leaf.path = joinNames (names ++ [leaf.property.name])
  /-- In every type within reach each property that stands for itself is one leaf, and they keep
  the order of declaration. -/
  complete : ∀ t, catalog.Reachable root t →
    (leaves.filter fun leaf ↦ leaf.owner = t).map Leaf.property = catalog.standing t

theorem completeTable_inlineRows {root : TypeDecl} (hroot : root ∈ catalog.types) :
    catalog.CompleteTable root (catalog.inlineRows root) (catalog.leaves root) where
  rows_eq := inlineRows_eq_map root
  cells := by
    rw [inlineRows_eq_map]
    intro row hrow
    obtain ⟨leaf, -, rfl⟩ := List.mem_map.1 hrow
    rfl
  within := by
    intro leaf hleaf
    obtain ⟨names, hroute, hstanding, -⟩ := endsRoute_of_mem_leaves hleaf
    exact ⟨hroute.reachable, hstanding⟩
  path := by
    intro leaf hleaf
    obtain ⟨names, hroute, -, hpath⟩ := endsRoute_of_mem_leaves hleaf
    exact ⟨names, hroute, hpath⟩
  complete := by
    intro t ht
    rw [map_property_leaves, standing_of_leaves, if_pos ((mem_discovered_iff hroot).2 ht)]

/-- **The inline layout makes one page, with everything within reach in its table.**  It claims no
name. -/
theorem inlinePage_complete {root : TypeDecl} (hroot : root ∈ catalog.types)
    (options : PassOptions) (ledger : Ledger) :
    ∃ page, catalog.pages root { options with layout := .inline } ledger = ([page], ledger) ∧
      page.subject = root ∧ page.fileName = none ∧
      ∃ leaves, catalog.CompleteTable root page.document.table.rows leaves :=
  ⟨_, rfl, rfl, rfl, catalog.leaves root, completeTable_inlineRows hroot⟩

/-- The table of a server, which leads back to itself through its pool. -/
theorem inlinePage_complete_circle :
    server ∈ circle.types ∧
      ∃ page, circle.pages server ⟨.markdown, "docs", .inline, false⟩ .empty = ([page], .empty) ∧
        page.subject = server ∧ page.fileName = none ∧
        ∃ leaves, circle.CompleteTable server page.document.table.rows leaves :=
  ⟨List.mem_cons_self ..,
    inlinePage_complete (List.mem_cons_self ..) ⟨.markdown, "docs", .inline, false⟩ .empty⟩

end Catalog

end ConfigDocs
