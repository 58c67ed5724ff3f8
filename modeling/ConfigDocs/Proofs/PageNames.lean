import Mathlib.Data.List.Nodup
import ConfigDocs.Proofs.Ledger
import ConfigDocs.Proofs.Worklist

/-!
# The names of pages, all at once

The separate layout names a type when it first meets it, and fills a page while the pages it leads
to are made.  What comes of that is easier to say with all names given beforehand: `claimNames`
claims a name for each of a list of types, in order, and `pagesOf` makes the pages of types that
have names, each page complete, with links that look their target up among all the names.  That the
layout makes these pages is shown in `ConfigDocs.Proofs.Recursion`.

Here are the facts about names that follow from claiming them: what `Catalog.claimNames` hands out
was free, differs up to letter case and is taken afterwards (`Catalog.nodup_claimNames`,
`Catalog.contains_claimNames`), and looking a type up gives the name that was claimed for it
(`Catalog.nameOf_eq_of_mem`), no matter how many names are claimed later
(`Catalog.nameOf_append_of_mem`).
-/

set_option autoImplicit false

namespace ConfigDocs

namespace Catalog

variable {catalog : Catalog}

/-! ## Claiming names -/

/-- Claims a file name for each of the given types, in order: the types with their names, and the
ledger in which these are claimed. -/
def claimNames (options : PassOptions) :
    Ledger → List TypeDecl → List (TypeDecl × String) × Ledger
  | ledger, [] => ([], ledger)
  | ledger, t :: types =>
    let claimed := ledger.claim (baseFileName t options.includeNamespaces) options.format.extension
    let more := claimNames options claimed.2 types
    ((t, claimed.1) :: more.1, more.2)

section ClaimNames

variable (options : PassOptions)

theorem map_fst_claimNames (ledger : Ledger) (types : List TypeDecl) :
    (claimNames options ledger types).1.map Prod.fst = types := by
  induction types generalizing ledger with
  | nil => rfl
  | cons t types ih => rw [claimNames, List.map_cons, ih]

variable {options} in
/-- What holds of every name that any ledger gives out for one of the types holds of the claimed
names. -/
theorem forall_mem_claimNames {P : String → Prop} {types : List TypeDecl}
    (h : ∀ t ∈ types, ∀ ledger : Ledger,
      P (ledger.freeName (baseFileName t options.includeNamespaces) options.format.extension))
    (ledger : Ledger) : ∀ entry ∈ (claimNames options ledger types).1, P entry.2 := by
  induction types generalizing ledger with
  | nil => simp [claimNames]
  | cons t types ih =>
    rw [List.forall_mem_cons] at h
    rw [claimNames, List.forall_mem_cons]
    exact ⟨h.1 ledger, ih h.2 _⟩

/-- Claiming names for types is claiming one for the base and the extension of each. -/
theorem grantsEach_claimNames (ledger : Ledger) (types : List TypeDecl) :
    Ledger.GrantsEach ledger
      (types.map fun t ↦ (baseFileName t options.includeNamespaces, options.format.extension))
      ((claimNames options ledger types).1.map Prod.snd) (claimNames options ledger types).2 := by
  induction types generalizing ledger with
  | nil => exact .nil
  | cons t types ih => exact .cons (ledger.grants_claim _ _) (ih _)

/-- Every claimed name was free. -/
theorem contains_of_mem_claimNames {ledger : Ledger} {types : List TypeDecl}
    {entry : TypeDecl × String} (h : entry ∈ (claimNames options ledger types).1) :
    ledger.contains entry.2 = false :=
  (grantsEach_claimNames options ledger types).free (List.mem_map_of_mem h)

/-- **The claimed names differ**, also up to letter case. -/
theorem nodup_claimNames (ledger : Ledger) (types : List TypeDecl) :
    ((claimNames options ledger types).1.map fun entry ↦ Text.toLowerAscii entry.2).Nodup := by
  have h := (grantsEach_claimNames options ledger types).nodup
  rwa [List.map_map] at h

theorem contains_claimNames {ledger : Ledger} {types : List TypeDecl} {name : String} :
    (claimNames options ledger types).2.contains name = true ↔
      ledger.contains name = true ∨
        ∃ entry ∈ (claimNames options ledger types).1,
          Text.toLowerAscii entry.2 = Text.toLowerAscii name := by
  rw [(grantsEach_claimNames options ledger types).contains]
  simp only [List.mem_map, exists_exists_and_eq_and]

theorem claimNames_append (ledger : Ledger) (types more : List TypeDecl) :
    claimNames options ledger (types ++ more) =
      ((claimNames options ledger types).1 ++
          (claimNames options (claimNames options ledger types).2 more).1,
        (claimNames options (claimNames options ledger types).2 more).2) := by
  induction types generalizing ledger with
  | nil => rfl
  | cons t types ih => rw [List.cons_append, claimNames, ih, claimNames, List.cons_append]

theorem size_claimNames (ledger : Ledger) (types : List TypeDecl) :
    (claimNames options ledger types).2.size = ledger.size + types.length := by
  rw [(grantsEach_claimNames options ledger types).size, List.length_map]

end ClaimNames

/-- A qualified file name has nothing in it but letters, numerals and hyphens. -/
theorem notMem_baseFileName_qualified {c : Char} (hletter : Text.isAlphanumeric c = false)
    (hhyphen : c ≠ '-') (t : TypeDecl) : c ∉ (baseFileName t true).toList := by
  rw [baseFileName, if_pos rfl, String.toList_ofList, List.mem_map]
  rintro ⟨d, -, hd⟩
  split at hd
  · rename_i hclass
    rw [hd, hletter] at hclass
    cases hclass
  · exact hhyphen hd.symm

/-! ## Looking names up -/

/-- The name of the file of a type, among the given names. -/
def nameOf (names : List (TypeDecl × String)) (t : TypeDecl) : String :=
  ((names.find? fun entry ↦ entry.1.fullName == t.fullName).map Prod.snd).getD ""

/-- A type is found among names if one of them is for its full name. -/
theorem exists_find?_of_mem {names : List (TypeDecl × String)} {t : TypeDecl}
    (h : t.fullName ∈ names.map fun entry ↦ entry.1.fullName) :
    ∃ found, (names.find? fun entry ↦ entry.1.fullName == t.fullName) = some found := by
  obtain ⟨entry, hentry, hname⟩ := List.mem_map.1 h
  exact Option.isSome_iff_exists.1 (List.find?_isSome.2 ⟨entry, hentry, beq_iff_eq.2 hname⟩)

theorem find?_eq_none_of_notMem {names : List (TypeDecl × String)} {t : TypeDecl}
    (h : t.fullName ∉ names.map fun entry ↦ entry.1.fullName) :
    (names.find? fun entry ↦ entry.1.fullName == t.fullName) = none :=
  List.find?_eq_none.2 fun entry hentry hbeq ↦
    h (List.mem_map.2 ⟨entry, hentry, eq_of_beq hbeq⟩)

/-- With no two types of the same full name, a type is found under its own name. -/
theorem nameOf_eq_of_mem {names : List (TypeDecl × String)}
    (hkeys : (names.map fun entry ↦ entry.1.fullName).Nodup) {entry : TypeDecl × String}
    (h : entry ∈ names) : nameOf names entry.1 = entry.2 := by
  induction names with
  | nil => cases h
  | cons first names ih =>
    rw [List.map_cons, List.nodup_cons] at hkeys
    rcases List.mem_cons.1 h with rfl | h
    · rw [nameOf, List.find?_cons_of_pos (by simp)]
      rfl
    · have hne : first.1.fullName ≠ entry.1.fullName := by
        intro heq
        exact hkeys.1 (List.mem_map.2 ⟨entry, h, heq.symm⟩)
      rw [nameOf, List.find?_cons_of_neg (by simpa using hne)]
      exact ih hkeys.2 h

/-- Names that are claimed later make no difference to a type that has one. -/
theorem nameOf_append_of_mem {names : List (TypeDecl × String)} {t : TypeDecl}
    (h : t.fullName ∈ names.map fun entry ↦ entry.1.fullName) (more : List (TypeDecl × String)) :
    nameOf (names ++ more) t = nameOf names t := by
  obtain ⟨found, hfound⟩ := exists_find?_of_mem h
  rw [nameOf, List.find?_append, hfound, Option.some_or, nameOf, hfound]

theorem nameOf_concat_self {names : List (TypeDecl × String)} {t : TypeDecl}
    (h : t.fullName ∉ names.map fun entry ↦ entry.1.fullName) (name : String) :
    nameOf (names ++ [(t, name)]) t = name := by
  rw [nameOf, List.find?_append, find?_eq_none_of_notMem h, Option.none_or,
    List.find?_cons_of_pos (by simp)]
  rfl

/-- What is known of the names of a forest: neither a type nor a name occurs twice. -/
structure Naming (names : List (TypeDecl × String)) : Prop where
  /-- No two types have the same full name. -/
  keys : (names.map fun entry ↦ entry.1.fullName).Nodup
  /-- No two names are the same. -/
  values : (names.map Prod.snd).Nodup

/-- Two types of a naming have the same name only if they are the same. -/
theorem Naming.snd_eq_iff {names : List (TypeDecl × String)} (hnames : Naming names)
    {entry other : TypeDecl × String} (h : entry ∈ names) (hother : other ∈ names) :
    entry.2 = other.2 ↔ entry.1.fullName = other.1.fullName := by
  constructor
  · intro heq
    rw [List.inj_on_of_nodup_map hnames.values h hother heq]
  · intro heq
    rw [List.inj_on_of_nodup_map hnames.keys h hother heq]

variable (catalog) in
/-- The names of the pages of a root. -/
def pageNames (root : TypeDecl) (options : PassOptions) (ledger : Ledger) :
    List (TypeDecl × String) :=
  (claimNames options ledger (catalog.discovered root)).1

/-! ## From names to pages -/

section Pages

variable (catalog)

/-- The row of a property on the page of its owner. -/
def separateRow (names : List (TypeDecl × String)) (owner : TypeDecl) (property : Property) : Row :=
  let entry := PropertyEntry.ofProperty catalog owner property property.name
  match catalog.customTarget owner property with
  | none => entry.row
  | some target => entry.linkRow (nameOf names target)

/-- The rows of the page of a type. -/
def separateRows (names : List (TypeDecl × String)) (t : TypeDecl) : List Row :=
  (catalog.documentedProperties t).map (catalog.separateRow names t)

/-- The page of a type that another page leads to. -/
def nestedPage (names : List (TypeDecl × String)) (options : PassOptions)
    (entry : TypeDecl × String) : Page where
  subject := entry.1
  fileName := some entry.2
  document := nestedDocument entry.1 options (catalog.separateRows names entry.1)

/-- The page of the root. -/
def rootPage (names : List (TypeDecl × String)) (options : PassOptions)
    (entry : TypeDecl × String) : Page where
  subject := entry.1
  fileName := some entry.2
  document := rootDocument entry.1 options (catalog.separateRows names entry.1)

/-- The pages of types with their names, the first of them as the root. -/
def pagesOf (options : PassOptions) (names : List (TypeDecl × String)) : List Page :=
  match names with
  | [] => []
  | root :: nested =>
    catalog.rootPage names options root :: nested.map (catalog.nestedPage names options)

end Pages

theorem separateRow_of_none {names : List (TypeDecl × String)} {owner : TypeDecl}
    {property : Property} (h : catalog.customTarget owner property = none) :
    catalog.separateRow names owner property =
      (PropertyEntry.ofProperty catalog owner property property.name).row := by
  rw [separateRow, h]

theorem separateRow_of_some {names : List (TypeDecl × String)} {owner target : TypeDecl}
    {property : Property} (h : catalog.customTarget owner property = some target) :
    catalog.separateRow names owner property =
      (PropertyEntry.ofProperty catalog owner property property.name).linkRow
        (nameOf names target) := by
  rw [separateRow, h]

variable (catalog) in
/-- A page is that of a type with its name, among all the names of a forest. -/
structure IsPageOf (names : List (TypeDecl × String)) (entry : TypeDecl × String) (page : Page) :
    Prop where
  /-- It documents the type. -/
  subject : page.subject = entry.1
  /-- It goes to the file of that name. -/
  fileName : page.fileName = some entry.2
  /-- Its rows are those of the type. -/
  rows : page.document.table.rows = catalog.separateRows names entry.1

section PagesOf

variable {options : PassOptions} {names : List (TypeDecl × String)}

theorem map_subject_pagesOf :
    (catalog.pagesOf options names).map Page.subject = names.map Prod.fst := by
  cases names with
  | nil => rfl
  | cons root nested =>
    rw [pagesOf, List.map_cons, List.map_cons, List.map_map]
    rfl

theorem map_fileName_pagesOf :
    (catalog.pagesOf options names).map Page.fileName = (names.map Prod.snd).map some := by
  cases names with
  | nil => rfl
  | cons root nested =>
    rw [pagesOf, List.map_cons, List.map_cons, List.map_cons, List.map_map, List.map_map]
    rfl

theorem exists_entry_of_mem_pagesOf {page : Page} (h : page ∈ catalog.pagesOf options names) :
    ∃ entry ∈ names, catalog.IsPageOf names entry page := by
  cases names with
  | nil => cases h
  | cons root nested =>
    rcases List.mem_cons.1 h with rfl | h
    · exact ⟨root, List.mem_cons_self .., rfl, rfl, rfl⟩
    · obtain ⟨entry, hentry, rfl⟩ := List.mem_map.1 h
      exact ⟨entry, List.mem_cons_of_mem _ hentry, rfl, rfl, rfl⟩

end PagesOf

end Catalog

end ConfigDocs
