import ConfigDocs.Ledger
import ConfigDocs.Pages.Basic
import ConfigDocs.Text.Word

/-!
# The two layouts

Both layouts go through the types that a root leads to.  A documented property of a type either
stands for itself or has a custom target, a type whose documented properties say more, and a target
is entered where the property stands, before the properties behind it.  No type is entered twice,
so it does not matter if types refer to each other in circles.

The inline layout makes one page (`Catalog.collectRows`).  Its table has a row for every property
that stands for itself, named by the path to it; a property with a target makes way for the rows of
that target, or for none if the target has been visited.

The separate layout makes a page for every type it meets (`Catalog.expand`).  The table of a page
has a row for every documented property of its type; where a property has a target, its name is a
link to the page of that type.  A type is given the name of its file, claimed from a ledger, when it
is first met, and then its page is put behind the others and filled.

What has been visited is a list of full names, and a recursion ends because every entry into a type
leaves fewer types unvisited (`Catalog.length_unvisited_cons_lt`).
-/

set_option autoImplicit false

namespace ConfigDocs

namespace Catalog

variable (catalog : Catalog)

/-! ## What has been visited -/

/-- The full names of the types that have not been visited. -/
def unvisited (visited : List String) : List String :=
  (catalog.types.map TypeDecl.fullName).filter fun name ↦ name ∉ visited

section Unvisited

variable {catalog}

theorem length_unvisited_le {visited more : List String} (h : visited ⊆ more) :
    (catalog.unvisited more).length ≤ (catalog.unvisited visited).length := by
  rw [unvisited, unvisited, ← List.countP_eq_length_filter, ← List.countP_eq_length_filter]
  refine List.countP_mono_left fun name _ hname ↦ ?_
  rw [decide_eq_true_eq] at hname ⊢
  exact fun hvisited ↦ hname (h hvisited)

theorem unvisited_cons (name : String) (visited : List String) :
    catalog.unvisited (name :: visited) =
      (catalog.unvisited visited).filter fun other ↦ other ≠ name := by
  rw [unvisited, unvisited, List.filter_filter]
  refine List.filter_congr fun other _ ↦ ?_
  simp only [List.mem_cons, not_or, Bool.decide_and, ne_eq]

/-- Visiting a type of the catalogue leaves fewer types unvisited. -/
theorem length_unvisited_cons_lt {t : TypeDecl} {visited : List String} (ht : t ∈ catalog.types)
    (h : t.fullName ∉ visited) :
    (catalog.unvisited (t.fullName :: visited)).length < (catalog.unvisited visited).length := by
  rw [unvisited_cons]
  refine List.length_filter_lt_length_iff_exists.2 ⟨t.fullName, ?_, by simp⟩
  exact List.mem_filter.2 ⟨List.mem_map_of_mem ht, decide_eq_true h⟩

end Unvisited

/-! ## One table -/

/-- The rows of some properties of `owner`, whose path from the root is `path`, and what has been
visited after them. -/
def collectRows (owner : TypeDecl) (path : String) (visited : List String)
    (properties : List Property) : { result : List Row × List String // visited ⊆ result.2 } :=
  match properties with
  | [] => ⟨([], visited), fun _ h ↦ h⟩
  | property :: rest =>
    let here := joinPath path property.name
    match _htarget : catalog.customTarget owner property with
    | none =>
      let more := collectRows owner path visited rest
      ⟨((PropertyEntry.ofProperty catalog owner property here).row :: more.1.1, more.1.2), more.2⟩
    | some target =>
      if _hvisited : target.fullName ∈ visited then collectRows owner path visited rest
      else
        let within := collectRows target here (target.fullName :: visited)
          (catalog.documentedProperties target)
        let more := collectRows owner path within.1.2 rest
        ⟨(within.1.1 ++ more.1.1, more.1.2),
          fun _ h ↦ more.2 (within.2 (List.mem_cons_of_mem _ h))⟩
termination_by ((catalog.unvisited visited).length, properties.length)
decreasing_by
  · exact Prod.Lex.right _ (by simp)
  · exact Prod.Lex.right _ (by simp)
  · exact Prod.Lex.left _ _ (length_unvisited_cons_lt (customTarget_mem _htarget) _hvisited)
  · exact Prod.Lex.left _ _ (Nat.lt_of_le_of_lt (length_unvisited_le within.2)
      (length_unvisited_cons_lt (customTarget_mem _htarget) _hvisited))

/-- The rows of the inline table. -/
def inlineRows (root : TypeDecl) : List Row :=
  (catalog.collectRows root "" [root.fullName] (catalog.documentedProperties root)).1.1

/-- The page of the inline layout. -/
def inlinePage (root : TypeDecl) (options : PassOptions) : Page where
  subject := root
  fileName := none
  document := rootDocument root options (catalog.inlineRows root)

end Catalog

/-! ## One table for each type -/

/-- The stem of the file name of a type: its name, or its full name with a hyphen for everything
that is neither a letter nor a numeral. -/
def Catalog.baseFileName (t : TypeDecl) (qualified : Bool) : String :=
  if qualified then
    String.ofList (t.fullName.toList.map fun c ↦ if Text.isAlphanumeric c then c else '-')
  else t.name

/-- How far the pages of the separate layout have come. -/
structure SeparateWalk where
  /-- The names that are taken. -/
  ledger : Ledger
  /-- The full names of the types whose properties have been gone through or are just being. -/
  visited : List String
  /-- The types that have been met, with the names of their files. -/
  names : List (TypeDecl × String)
  /-- The pages, in the order in which their types were met. -/
  pages : List Page

namespace SeparateWalk

/-- The name of the file of a type, and whether it is a new one.  A type that has not been met is
given one. -/
def nameFor (options : PassOptions) (walk : SeparateWalk) (t : TypeDecl) :
    (String × Bool) × SeparateWalk :=
  match walk.names.find? fun entry ↦ entry.1.fullName == t.fullName with
  | some entry => ((entry.2, false), walk)
  | none =>
    let claimed := walk.ledger.claim (Catalog.baseFileName t options.includeNamespaces)
      options.format.extension
    ((claimed.1, true), { walk with ledger := claimed.2, names := walk.names ++ [(t, claimed.1)] })

/-- A row at the end of the table of the page at an index. -/
def addRow (walk : SeparateWalk) (index : Nat) (row : Row) : SeparateWalk :=
  { walk with pages := walk.pages.modify index fun page ↦ page.addRows [row] }

/-- A page behind the others. -/
def addPage (walk : SeparateWalk) (page : Page) : SeparateWalk :=
  { walk with pages := walk.pages ++ [page] }

/-- The properties of a type are about to be gone through. -/
def visit (walk : SeparateWalk) (t : TypeDecl) : SeparateWalk :=
  { walk with visited := t.fullName :: walk.visited }

@[simp] theorem visited_addRow (walk : SeparateWalk) (index : Nat) (row : Row) :
    (walk.addRow index row).visited = walk.visited := rfl

@[simp] theorem visited_addPage (walk : SeparateWalk) (page : Page) :
    (walk.addPage page).visited = walk.visited := rfl

@[simp] theorem visited_visit (walk : SeparateWalk) (t : TypeDecl) :
    (walk.visit t).visited = t.fullName :: walk.visited := rfl

@[simp] theorem visited_nameFor (options : PassOptions) (walk : SeparateWalk) (t : TypeDecl) :
    (walk.nameFor options t).2.visited = walk.visited := by
  rw [nameFor]
  split <;> rfl

end SeparateWalk

namespace Catalog

variable (catalog : Catalog)

variable {catalog} in
theorem length_unvisited_visit_lt {walk entered : SeparateWalk} {target : TypeDecl}
    (h : entered.visited = walk.visited) (ht : target ∈ catalog.types)
    (hvisited : target.fullName ∉ entered.visited) :
    (catalog.unvisited (entered.visit target).visited).length <
      (catalog.unvisited walk.visited).length := by
  rw [SeparateWalk.visited_visit, h]
  exact length_unvisited_cons_lt ht (h ▸ hvisited)

/-- The walk after some properties of `owner`, whose page is the one at `index`. -/
def expand (options : PassOptions) (owner : TypeDecl) (index : Nat) (walk : SeparateWalk)
    (properties : List Property) : { result : SeparateWalk // walk.visited ⊆ result.visited } :=
  match properties with
  | [] => ⟨walk, fun _ h ↦ h⟩
  | property :: rest =>
    let entry := PropertyEntry.ofProperty catalog owner property property.name
    match _htarget : catalog.customTarget owner property with
    | none =>
      let more := expand options owner index (walk.addRow index entry.row) rest
      ⟨more.1, more.2⟩
    | some target =>
      let named := walk.nameFor options target
      let linked := named.2.addRow index (entry.linkRow named.1.1)
      have hlinked : linked.visited = walk.visited := by
        rw [SeparateWalk.visited_addRow, SeparateWalk.visited_nameFor]
      if named.1.2 then
        let entered := linked.addPage
          { subject := target, fileName := some named.1.1,
            document := nestedDocument target options [] }
        if _hvisited : target.fullName ∈ entered.visited then
          let more := expand options owner index entered rest
          ⟨more.1, fun _ h ↦ more.2 (hlinked.symm ▸ h)⟩
        else
          let within := expand options target (entered.pages.length - 1) (entered.visit target)
            (catalog.documentedProperties target)
          let more := expand options owner index within.1 rest
          ⟨more.1, fun _ h ↦ more.2 (within.2 (List.mem_cons_of_mem _ (hlinked.symm ▸ h)))⟩
      else
        let more := expand options owner index linked rest
        ⟨more.1, fun _ h ↦ more.2 (hlinked.symm ▸ h)⟩
termination_by ((catalog.unvisited walk.visited).length, properties.length)
decreasing_by
  · exact Prod.Lex.right _ (by simp)
  · simp only [SeparateWalk.visited_addPage, SeparateWalk.visited_addRow,
      SeparateWalk.visited_nameFor]
    exact Prod.Lex.right _ (by simp)
  · exact Prod.Lex.left _ _
      (length_unvisited_visit_lt hlinked (customTarget_mem _htarget) _hvisited)
  · exact Prod.Lex.left _ _ (Nat.lt_of_le_of_lt (length_unvisited_le within.2)
      (length_unvisited_visit_lt hlinked (customTarget_mem _htarget) _hvisited))
  · simp only [SeparateWalk.visited_addRow, SeparateWalk.visited_nameFor]
    exact Prod.Lex.right _ (by simp)

/-- The pages of the separate layout, and the ledger in which their names are claimed. -/
def separatePages (root : TypeDecl) (options : PassOptions) (ledger : Ledger) :
    List Page × Ledger :=
  let named := SeparateWalk.nameFor options ⟨ledger, [], [], []⟩ root
  let begun := named.2.addPage
    { subject := root, fileName := some named.1.1, document := rootDocument root options [] }
  let walk := catalog.expand options root 0 (begun.visit root) (catalog.documentedProperties root)
  (walk.1.pages, walk.1.ledger)

/-! ## Either layout -/

/-- The pages of a pass over a root, and the ledger after it. -/
def pages (root : TypeDecl) (options : PassOptions) (ledger : Ledger) : List Page × Ledger :=
  match options.layout with
  | .inline => ([catalog.inlinePage root options], ledger)
  | .separate => catalog.separatePages root options ledger

end Catalog

end ConfigDocs
