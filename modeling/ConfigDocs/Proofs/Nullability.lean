import Mathlib.Data.List.Forall2
import ConfigDocs.Proofs.Exclusion
import ConfigDocs.Proofs.Forest

/-!
# Whether a value may be absent does not matter

A question mark behind a declared type says that the value may be absent.  The documentation repeats
it where it shows the type, and nowhere else does it make a difference: not to what a type refers
to, not to what is expanded or left out, and neither to default values nor to examples.  The same
goes for a question mark behind the type of the elements of an array.

`TypeRef.bare` takes the question mark away in these places, and `Catalog.bared` does so for every
declared type of a catalogue.  Two catalogues that are the same once that is done are documented by
the same pages up to the texts in the column of types (`Catalog.pages_sameButTypes`).

The two catalogues are never compared with each other.  Each is compared with what it is without the
question marks, where every question that is asked of a catalogue has the same answer; so each
function of the documentation has one lemma here, which says that it commutes with taking them away.
The walk is no exception (`Catalog.walkFrom_bared`): it takes the same steps in both.
-/

set_option autoImplicit false

namespace ConfigDocs

/-! ## Bare references -/

namespace TypeRef

mutual

/-- The reference without the nullable wrappers around it and around the elements of arrays. -/
def bare : TypeRef → TypeRef
  | .named name args => .named name (bareInsideAll args)
  | .array element => .array element.bare
  | .nullable inner => inner.bare
  | .unparsed text => .unparsed text

/-- The reference without the nullable wrappers around the elements of arrays. -/
def bareInside : TypeRef → TypeRef
  | .named name args => .named name (bareInsideAll args)
  | .array element => .array element.bare
  | .nullable inner => .nullable inner.bareInside
  | .unparsed text => .unparsed text

/-- `bareInside` along a list of references. -/
def bareInsideAll : List TypeRef → List TypeRef
  | [] => []
  | t :: ts => t.bareInside :: bareInsideAll ts

end

theorem bare_stripNullable : ∀ t : TypeRef, t.stripNullable.bare = t.bare
  | .nullable inner => bare_stripNullable inner
  | .named _ _ => rfl
  | .array _ => rfl
  | .unparsed _ => rfl

theorem stripNullable_bare : ∀ t : TypeRef, t.bare.stripNullable = t.bare
  | .nullable inner => stripNullable_bare inner
  | .named _ _ => rfl
  | .array _ => rfl
  | .unparsed _ => rfl

theorem stripNullable_bareInside : ∀ t : TypeRef, t.bareInside.stripNullable = t.bare
  | .nullable inner => stripNullable_bareInside inner
  | .named _ _ => rfl
  | .array _ => rfl
  | .unparsed _ => rfl

theorem builtin?_bareInside (t : TypeRef) : t.bareInside.builtin? = t.builtin? := by
  match t with
  | .named _ [] => rfl
  | .named _ (_ :: _) => rfl
  | .array _ => rfl
  | .nullable _ => rfl
  | .unparsed _ => rfl

/-- A bare reference names the built-in type that is left when the wrappers are taken away. -/
theorem builtin?_bare : ∀ t : TypeRef, t.bare.builtin? = t.stripNullable.builtin?
  | .nullable inner => builtin?_bare inner
  | .named _ [] => rfl
  | .named _ (_ :: _) => rfl
  | .array _ => rfl
  | .unparsed _ => rfl

/-- An example made up from the shape of a type does not tell a bare type from another. -/
theorem sampleOfShape_bare : ∀ t : TypeRef,
    Catalog.sampleOfShape t.bare = Catalog.sampleOfShape t.stripNullable
  | .nullable inner => sampleOfShape_bare inner
  | .named _ [] => rfl
  | .named _ [arg] => by
    simp only [bare, bareInsideAll, stripNullable, Catalog.sampleOfShape, builtin?_bareInside]
  | .named _ (_ :: _ :: _) => rfl
  | .array _ => rfl
  | .unparsed _ => rfl

end TypeRef

/-! ## Bare declarations -/

/-- The property with its declared type bare. -/
def Property.bared (p : Property) : Property :=
  { p with type := p.type.bare }

/-- The type with the declared types of its properties bare. -/
def TypeDecl.bared (t : TypeDecl) : TypeDecl :=
  { t with properties := t.properties.map Property.bared }

/-- What a reference resolves to, with declared types bare. -/
def Resolved.bared : Resolved → Resolved
  | .builtin b => .builtin b
  | .declared t => .declared t.bared
  | .unresolved => .unresolved

namespace Catalog

/-- The catalogue with all declared types bare. -/
def bared (catalog : Catalog) : Catalog where
  types := catalog.types.map TypeDecl.bared
  reserved := catalog.reserved
  distinct := by
    rw [List.map_map]
    exact catalog.distinct

variable (catalog : Catalog)

/-! ### Looking names up -/

theorem withFullName_bared (name : String) :
    catalog.bared.withFullName name = (catalog.withFullName name).map TypeDecl.bared :=
  List.find?_map ..

theorem onlyNamed_bared (name : String) :
    catalog.bared.onlyNamed name = (catalog.onlyNamed name).map TypeDecl.bared := by
  have hfilter : (catalog.bared.types.filter fun t ↦ t.name == name) =
      (catalog.types.filter fun t ↦ t.name == name).map TypeDecl.bared := List.filter_map
  rw [onlyNamed, onlyNamed, hfilter]
  cases catalog.types.filter fun t ↦ t.name == name with
  | nil => rfl
  | cons only others => cases others <;> rfl

theorem lookup_bared (name context : String) :
    catalog.bared.lookup name context = (catalog.lookup name context).map TypeDecl.bared := by
  rw [lookup_eq_or, lookup_eq_or, Option.map_or, Option.map_or, withFullName_bared]
  simp only [withFullName_bared, onlyNamed_bared, apply_ite (Option.map TypeDecl.bared),
    Option.map_none]

/-! ### Resolution -/

theorem isSequence_bared (name context : String) :
    catalog.bared.isSequence name context = catalog.isSequence name context := by
  rw [isSequence, isSequence, lookup_bared]
  cases catalog.lookup name context <;> rfl

/-- **A bare reference resolves to the same.** -/
theorem resolve_bared (context : String) : ∀ t : TypeRef,
    catalog.bared.resolve t.bare context = (catalog.resolve t context).bared
  | .nullable inner => resolve_bared context inner
  | .named name args => by
    have hbuiltin := TypeRef.builtin?_bareInside (.named name args)
    simp only [TypeRef.bareInside] at hbuiltin
    simp only [resolve, TypeRef.bare, TypeRef.stripNullable, hbuiltin, lookup_bared]
    cases (TypeRef.named name args).builtin? with
    | some builtin => rfl
    | none => cases catalog.lookup name context <;> rfl
  | .array _ => rfl
  | .unparsed _ => rfl

/-- **A bare reference has the same effective type**, up to wrappers. -/
theorem effectiveType_bared (context : String) : ∀ t : TypeRef,
    catalog.bared.effectiveType t.bare context = (catalog.effectiveType t context).bare
  | .nullable inner => effectiveType_bared context inner
  | .named _ [] => rfl
  | .named name [arg] => by
    simp only [effectiveType, TypeRef.bare, TypeRef.bareInsideAll, TypeRef.stripNullable,
      isSequence_bared]
    split
    · rw [TypeRef.stripNullable_bareInside, TypeRef.bare_stripNullable]
    · rfl
  | .named _ (_ :: _ :: _) => rfl
  | .array element => by
    simp only [effectiveType, TypeRef.bare, TypeRef.stripNullable, TypeRef.stripNullable_bare,
      TypeRef.bare_stripNullable]
  | .unparsed _ => rfl

theorem effectiveTarget_bared (t : TypeDecl) (p : Property) :
    catalog.bared.effectiveTarget t.bared p.bared = (catalog.effectiveTarget t p).bared := by
  have htype : catalog.bared.effectiveType p.bared.type t.bared.space =
      (catalog.effectiveType p.type t.space).bare := catalog.effectiveType_bared t.space p.type
  rw [effectiveTarget, effectiveTarget, htype]
  exact catalog.resolve_bared t.space _

theorem isCustom_bared (t : TypeDecl) : catalog.bared.isCustom t.bared = catalog.isCustom t := rfl

theorem customTarget_bared (t : TypeDecl) (p : Property) :
    catalog.bared.customTarget t.bared p.bared =
      (catalog.customTarget t p).map TypeDecl.bared := by
  rw [customTarget, customTarget, effectiveTarget_bared]
  cases catalog.effectiveTarget t p with
  | builtin builtin => rfl
  | declared target =>
    dsimp only [Resolved.bared]
    rw [isCustom_bared]
    split <;> rfl
  | unresolved => rfl

theorem targetsExcluded_bared (t : TypeDecl) (p : Property) :
    catalog.bared.targetsExcluded t.bared p.bared = catalog.targetsExcluded t p := by
  rw [targetsExcluded, targetsExcluded, effectiveTarget_bared]
  cases catalog.effectiveTarget t p <;> rfl

/-- **The same properties are documented.** -/
theorem documentedProperties_bared (t : TypeDecl) :
    catalog.bared.documentedProperties t.bared =
      (catalog.documentedProperties t).map Property.bared := by
  have hdocumented : catalog.bared.isDocumentedProperty t.bared ∘ Property.bared =
      catalog.isDocumentedProperty t := by
    funext p
    simp only [Function.comp_apply, isDocumentedProperty, targetsExcluded_bared]
    rfl
  rw [documentedProperties, documentedProperties, ← hdocumented]
  exact List.filter_map

/-! ### Values -/

theorem enumMembers_bared (t : TypeDecl) (r : TypeRef) :
    catalog.bared.enumMembers t.bared r.bare = catalog.enumMembers t r := by
  have hresolve : catalog.bared.resolve r.bare t.bared.space = (catalog.resolve r t.space).bared :=
    catalog.resolve_bared t.space r
  rw [enumMembers, enumMembers, hresolve]
  cases catalog.resolve r t.space <;> rfl

theorem defaultValue_bared (t : TypeDecl) (p : Property) :
    catalog.bared.defaultValue t.bared p.bared = catalog.defaultValue t p := by
  have hmembers : catalog.bared.enumMembers t.bared p.bared.type = catalog.enumMembers t p.type :=
    catalog.enumMembers_bared t p.type
  rw [defaultValue, defaultValue, hmembers]
  rfl

theorem synthesizedSample_bared (t : TypeDecl) (r : TypeRef) :
    catalog.bared.synthesizedSample t.bared r.bare = catalog.synthesizedSample t r := by
  simp only [synthesizedSample, enumMembers_bared, TypeRef.stripNullable_bare,
    TypeRef.builtin?_bare, TypeRef.sampleOfShape_bare]

theorem exampleValue_bared (t : TypeDecl) (p : Property) :
    catalog.bared.exampleValue t.bared p.bared = catalog.exampleValue t p := by
  have hsample : catalog.bared.synthesizedSample t.bared p.bared.type =
      catalog.synthesizedSample t p.type := catalog.synthesizedSample_bared t p.type
  rw [exampleValue, exampleValue, hsample]
  rfl

/-- The table says the same about a property, but for its type. -/
theorem ofProperty_bared (t : TypeDecl) (p : Property) (parameter : String) :
    PropertyEntry.ofProperty catalog.bared t.bared p.bared parameter =
      { PropertyEntry.ofProperty catalog t p parameter with type := p.type.bare.display } := by
  rw [PropertyEntry.ofProperty, defaultValue_bared, exampleValue_bared]
  rfl

end Catalog

/-! ## The walk -/

/-- The task with its declarations bare. -/
def Task.bared (task : Task) : Task where
  owner := task.owner.bared
  path := task.path
  property := task.property.bared

/-- The visit with its declarations bare. -/
def Visit.bared : Visit → Visit
  | .leaf owner property path => .leaf owner.bared property.bared path
  | .expand target => .expand target.bared

namespace Catalog

variable (catalog : Catalog)

theorem tasksOf_bared (t : TypeDecl) (path : String) :
    catalog.bared.tasksOf t.bared path = (catalog.tasksOf t path).map Task.bared := by
  rw [tasksOf, tasksOf, tasksFor, tasksFor, documentedProperties_bared, List.map_map, List.map_map]
  rfl

/-- **The walk takes the same steps.** -/
theorem walkFrom_bared (pending : List String) (tasks : List Task) :
    catalog.bared.walkFrom pending (tasks.map Task.bared) =
      (catalog.walkFrom pending tasks).map Visit.bared := by
  induction pending, tasks using walk_induction catalog with
  | nil pending => rw [List.map_nil, walkFrom_nil, walkFrom_nil, List.map_nil]
  | leaf pending task rest hnone ih =>
    have hbared := catalog.customTarget_bared task.owner task.property
    rw [hnone, Option.map_none] at hbared
    rw [List.map_cons, walkFrom_leaf hnone, walkFrom_leaf hbared, ih, List.map_cons]
    rfl
  | expand pending task rest target hsome hmem ih =>
    have hbared := catalog.customTarget_bared task.owner task.property
    rw [hsome, Option.map_some] at hbared
    rw [List.map_append, ← tasksOf_bared] at ih
    have hmem' : target.bared.fullName ∈ pending := hmem
    rw [List.map_cons, walkFrom_expand hsome hmem, walkFrom_expand hbared hmem', List.map_cons]
    exact congrArg _ ih
  | skip pending task rest target hsome hmem ih =>
    have hbared := catalog.customTarget_bared task.owner task.property
    rw [hsome, Option.map_some] at hbared
    have hmem' : target.bared.fullName ∉ pending := hmem
    rw [List.map_cons, walkFrom_skip hsome hmem, walkFrom_skip hbared hmem', ih]

theorem walk_bared (root : TypeDecl) :
    catalog.bared.walk root.bared = (catalog.walk root).map Visit.bared := by
  have hothers : catalog.bared.othersThan root.bared = catalog.othersThan root := by
    rw [othersThan, bared, List.map_map]
    rfl
  rw [walk, hothers, tasksOf_bared, walkFrom_bared]
  rfl

theorem discovered_bared (root : TypeDecl) :
    catalog.bared.discovered root.bared = (catalog.discovered root).map TypeDecl.bared := by
  have hexpanded : Visit.expanded? ∘ Visit.bared = Option.map TypeDecl.bared ∘ Visit.expanded? := by
    funext visit
    cases visit <;> rfl
  rw [discovered, discovered, walk_bared, List.filterMap_map, hexpanded, List.map_cons,
    List.map_filterMap]
  rfl

end Catalog

/-! ## Tables without their types -/

/-- The row with nothing in the column of types. -/
def Row.untyped : Row → Row
  | first :: .text _ :: rest => first :: .text "" :: rest
  | row => row

/-- The document with nothing in the column of types. -/
def Document.untyped (document : Document) : Document :=
  { document with table := { document.table with rows := document.table.rows.map Row.untyped } }

namespace Catalog

variable (catalog : Catalog)

theorem untyped_visitRow?_bared (visit : Visit) :
    (catalog.bared.visitRow? visit.bared).map Row.untyped =
      (catalog.visitRow? visit).map Row.untyped := by
  cases visit with
  | leaf owner property path =>
    rw [Visit.bared, visitRow?, visitRow?, ofProperty_bared]
    rfl
  | expand target => rfl

theorem untyped_inlineRows_bared (root : TypeDecl) :
    (catalog.bared.inlineRows root.bared).map Row.untyped =
      (catalog.inlineRows root).map Row.untyped := by
  rw [inlineRows_eq_walk, inlineRows_eq_walk, walk_bared, List.map_filterMap, List.map_filterMap,
    List.filterMap_map]
  exact List.filterMap_congr fun visit _ ↦ catalog.untyped_visitRow?_bared visit

/-! ### One table for each type -/

/-- A type with its name, the type bare. -/
def bareEntry (entry : TypeDecl × String) : TypeDecl × String :=
  (entry.1.bared, entry.2)

theorem claimNames_bared (options : PassOptions) (ledger : Ledger) (types : List TypeDecl) :
    claimNames options ledger (types.map TypeDecl.bared) =
      ((claimNames options ledger types).1.map bareEntry, (claimNames options ledger types).2) := by
  induction types generalizing ledger with
  | nil => rfl
  | cons t types ih =>
    rw [List.map_cons, claimNames, ih]
    rfl

theorem nameOf_bared (names : List (TypeDecl × String)) (t : TypeDecl) :
    nameOf (names.map bareEntry) t.bared = nameOf names t := by
  rw [nameOf, nameOf, List.find?_map, Option.map_map]
  rfl

theorem untyped_separateRow_bared (names : List (TypeDecl × String)) (t : TypeDecl)
    (p : Property) :
    Row.untyped (catalog.bared.separateRow (names.map bareEntry) t.bared p.bared) =
      Row.untyped (catalog.separateRow names t p) := by
  have hentry : PropertyEntry.ofProperty catalog.bared t.bared p.bared p.bared.name = _ :=
    catalog.ofProperty_bared t p p.name
  rw [separateRow, separateRow, customTarget_bared, hentry]
  cases catalog.customTarget t p with
  | none => rfl
  | some target =>
    simp only [Option.map_some, nameOf_bared]
    rfl

theorem untyped_separateRows_bared (names : List (TypeDecl × String)) (t : TypeDecl) :
    (catalog.bared.separateRows (names.map bareEntry) t.bared).map Row.untyped =
      (catalog.separateRows names t).map Row.untyped := by
  rw [separateRows, separateRows, documentedProperties_bared, List.map_map, List.map_map,
    List.map_map]
  exact List.map_congr_left fun p _ ↦ catalog.untyped_separateRow_bared names t p

end Catalog

/-! ## Pages -/

/-- The page with its subject bare and nothing in the column of types. -/
def Page.bared (page : Page) : Page where
  subject := page.subject.bared
  fileName := page.fileName
  document := page.document.untyped

/-- The page with nothing in the column of types. -/
def Page.untyped (page : Page) : Page :=
  { page with document := page.document.untyped }

namespace Catalog

variable (catalog : Catalog)

theorem untyped_rootPage_bared (names : List (TypeDecl × String)) (options : PassOptions)
    (entry : TypeDecl × String) :
    (catalog.bared.rootPage (names.map bareEntry) options (bareEntry entry)).untyped =
      (catalog.rootPage names options entry).bared := by
  have hrows := catalog.untyped_separateRows_bared names entry.1
  simp only [Page.untyped, Page.bared, rootPage, rootDocument, Document.untyped, bareEntry, hrows]
  rfl

theorem untyped_nestedPage_bared (names : List (TypeDecl × String)) (options : PassOptions)
    (entry : TypeDecl × String) :
    (catalog.bared.nestedPage (names.map bareEntry) options (bareEntry entry)).untyped =
      (catalog.nestedPage names options entry).bared := by
  have hrows := catalog.untyped_separateRows_bared names entry.1
  simp only [Page.untyped, Page.bared, nestedPage, nestedDocument, Document.untyped, bareEntry,
    hrows]
  rfl

theorem untyped_pagesOf_bared (options : PassOptions) (names : List (TypeDecl × String)) :
    (catalog.bared.pagesOf options (names.map bareEntry)).map Page.untyped =
      (catalog.pagesOf options names).map Page.bared := by
  cases names with
  | nil => rfl
  | cons root nested =>
    have hroot := catalog.untyped_rootPage_bared (root :: nested) options root
    have hnested := catalog.untyped_nestedPage_bared (root :: nested) options
    rw [List.map_cons] at hroot hnested
    rw [List.map_cons, pagesOf, pagesOf, List.map_cons, List.map_cons, hroot, List.map_map,
      List.map_map, List.map_map]
    exact congrArg _ (List.map_congr_left fun entry _ ↦ hnested entry)

/-- **Without the question marks there are the same pages**, up to the column of types, and the same
names are claimed. -/
theorem untyped_pages_bared (root : TypeDecl) (options : PassOptions) (ledger : Ledger) :
    (catalog.bared.pages root.bared options ledger).1.map Page.untyped =
        (catalog.pages root options ledger).1.map Page.bared ∧
      (catalog.bared.pages root.bared options ledger).2 =
        (catalog.pages root options ledger).2 := by
  rw [pages, pages]
  cases options.layout with
  | inline =>
    have hrows := catalog.untyped_inlineRows_bared root
    refine ⟨congrArg (fun page ↦ [page]) ?_, rfl⟩
    simp only [Page.untyped, Page.bared, inlinePage, rootDocument, Document.untyped, hrows]
    rfl
  | separate =>
    dsimp only
    have hnames : catalog.bared.pageNames root.bared options ledger =
        (catalog.pageNames root options ledger).map bareEntry := by
      rw [pageNames, pageNames, discovered_bared, claimNames_bared]
    rw [separatePages_eq, separatePages_eq, hnames, discovered_bared, claimNames_bared]
    exact ⟨catalog.untyped_pagesOf_bared options (catalog.pageNames root options ledger), rfl⟩

variable {catalog} in
theorem subject_mem_types {root : TypeDecl} (hroot : root ∈ catalog.types) {options : PassOptions}
    {ledger : Ledger} {page : Page} (hpage : page ∈ (catalog.pages root options ledger).1) :
    page.subject ∈ catalog.types := by
  rw [pages] at hpage
  cases hlayout : options.layout with
  | inline =>
    rw [hlayout, List.mem_singleton] at hpage
    rw [hpage]
    exact hroot
  | separate =>
    rw [hlayout] at hpage
    exact mem_types_of_mem_discovered hroot (mem_discovered_of_mem_pages hpage)

/-! ## Two runs that differ in question marks -/

/-- Two catalogues are the same but for nullable wrappers, around declared types and around the
elements of arrays in them. -/
structure SameButNullable (a b : Catalog) : Prop where
  /-- Their types are the same, in the same order, once the wrappers are taken away. -/
  types : a.types.map TypeDecl.bared = b.types.map TypeDecl.bared
  /-- The same namespaces are reserved. -/
  reserved : a.reserved = b.reserved

/-- Two pages document the type at the same place of their catalogues, go to files of the same name
and say the same but for the texts in the column of types. -/
structure SameButTypes (a b : Catalog) (page other : Page) : Prop where
  /-- The documented types stand at the same place. -/
  place : ∃ i : Nat, a.types[i]? = some page.subject ∧ b.types[i]? = some other.subject
  /-- The pages go to the file of the same name, if they have one. -/
  fileName : page.fileName = other.fileName
  /-- Everything that is said outside the column of types is the same. -/
  document : page.document.untyped = other.document.untyped

namespace SameButNullable

variable {a b : Catalog} {t u : TypeDecl}

theorem bared_eq (h : a.SameButNullable b) : a.bared = b.bared := by
  rw [bared, bared]
  simp only [h.types, h.reserved]

theorem bared_eq_of_getElem? (h : a.SameButNullable b) {i : Nat} (ht : a.types[i]? = some t)
    (hu : b.types[i]? = some u) : t.bared = u.bared := by
  have hplace := congrArg (·[i]?) h.types
  simpa only [List.getElem?_map, ht, hu, Option.map_some, Option.some_inj] using hplace

/-- Types that are the same without the wrappers stand at the same place. -/
theorem exists_place (h : a.SameButNullable b) (ht : t ∈ a.types) (hu : u ∈ b.types)
    (htu : t.bared = u.bared) : ∃ i : Nat, a.types[i]? = some t ∧ b.types[i]? = some u := by
  obtain ⟨i, hi⟩ := List.getElem?_of_mem ht
  have hplace := congrArg (·[i]?) h.types
  simp only [List.getElem?_map, hi, Option.map_some] at hplace
  obtain ⟨other, hother, hbared⟩ := Option.map_eq_some_iff.1 hplace.symm
  have hname := congrArg TypeDecl.fullName (hbared.trans htu)
  rw [eq_of_fullName_eq (List.mem_of_getElem? hother) hu hname] at hother
  exact ⟨i, hi, hother⟩

end SameButNullable

/-- **Nullable wrappers are transparent.**  If two catalogues are the same but for them, the pages
of types that stand at the same place in them are the same but for the texts in the column of types,
in either layout, and the same names are claimed. -/
theorem pages_sameButTypes {a b : Catalog} (h : a.SameButNullable b) {i : Nat} {t u : TypeDecl}
    (ht : a.types[i]? = some t) (hu : b.types[i]? = some u) (options : PassOptions)
    (ledger : Ledger) :
    List.Forall₂ (SameButTypes a b) (a.pages t options ledger).1 (b.pages u options ledger).1 ∧
      (a.pages t options ledger).2 = (b.pages u options ledger).2 := by
  have hroot : t.bared = u.bared := h.bared_eq_of_getElem? ht hu
  obtain ⟨hpages, hledger⟩ := a.untyped_pages_bared t options ledger
  obtain ⟨hpages', hledger'⟩ := b.untyped_pages_bared u options ledger
  rw [h.bared_eq, hroot] at hpages hledger
  have hsame := hpages.symm.trans hpages'
  rw [← List.forall₂_eq_eq_eq, List.forall₂_map_left_iff, List.forall₂_map_right_iff] at hsame
  refine ⟨?_, hledger.symm.trans hledger'⟩
  rw [List.forall₂_iff_get] at hsame ⊢
  refine ⟨hsame.1, fun k hk hk' ↦ ?_⟩
  have hbared := hsame.2 k hk hk'
  have hsubject := congrArg Page.subject hbared
  have hfileName := congrArg Page.fileName hbared
  have hdocument := congrArg Page.document hbared
  refine ⟨h.exists_place ?_ ?_ hsubject, hfileName, hdocument⟩
  · exact subject_mem_types (List.mem_of_getElem? ht) (List.get_mem ..)
  · exact subject_mem_types (List.mem_of_getElem? hu) (List.get_mem ..)

/-- A gateway with a pool, some spare pools, a mode and some hosts, the declared types wrapped in
the given way. -/
def gateway (wrap : TypeRef → TypeRef) : TypeDecl :=
  plainClass "Gateway"
    [{ plainProperty "Primary" "Pool" with type := wrap (.named "Pool" []) },
      { plainProperty "Spares" "Pool" with type := wrap (.array (wrap (.named "Pool" []))) },
      { plainProperty "Mode" "Mode" with type := wrap (.named "Mode" []) },
      { plainProperty "Hosts" "List" with type := wrap (.named "List" [.named "string" []]) }]

/-- The catalogue of such a gateway and what it refers to. -/
def gateways (wrap : TypeRef → TypeRef) : Catalog where
  types :=
    [gateway wrap, { plainClass "Mode" [] with kind := .enum, members := ["Fast", "Safe"] },
      plainClass "Pool" [{ plainProperty "Size" "int" with type := wrap (.named "int" []) }]]
  reserved := defaultReserved
  distinct := show ["Gateway", "Mode", "Pool"].Nodup by decide

/-- The pages of a gateway are the same if everything it declares may be absent. -/
theorem pages_sameButTypes_gateways :
    (gateways id).SameButNullable (gateways .nullable) ∧
      List.Forall₂ (SameButTypes (gateways id) (gateways .nullable))
        ((gateways id).pages (gateway id) ⟨.markdown, "docs", .separate, false⟩ .empty).1
        ((gateways .nullable).pages (gateway .nullable) ⟨.markdown, "docs", .separate, false⟩
          .empty).1 := by
  have hsame : (gateways id).SameButNullable (gateways .nullable) := ⟨rfl, rfl⟩
  exact ⟨hsame, (pages_sameButTypes hsame (i := 0) rfl rfl _ _).1⟩

end Catalog

end ConfigDocs
