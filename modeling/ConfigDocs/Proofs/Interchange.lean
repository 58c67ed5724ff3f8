import Mathlib.Data.List.Forall2
import ConfigDocs.Generation.Plan
import ConfigDocs.Proofs.Recursion
import ConfigDocs.Proofs.Walk

/-!
# What a pass sees of a catalogue

Two catalogues may differ in many ways and still be documented by the same files.  This file says
how much they have to have in common, and proves that it is enough: two catalogues are
*interchangeable* if a name stands for the same type in both, up to what is hidden, and then every
pass over corresponding roots has the same plan (`Catalog.Interchangeable.plan_eq`).

Nothing here knows how the two catalogues came about.  That one is the other in a different order,
or the other with something changed that is excluded, is for other files to show, and there is
nothing left to do there but to compare what the two make of a name.

The proof goes the way of a pass and relates the two runs stage by stage.

* **Types.**  `TypeDecl.SameFace` relates two types of which the same may be shown.  A type that is
  excluded may be looked up but not shown, so for it only `TypeDecl.SameOutline` is asked.
* **Resolution.**  The same reference resolves to types that agree, so the same properties are
  documented, and a documented property expands into types with the same face
  (`Catalog.Interchangeable.rel_customTarget`).
* **The walk.**  The two walks take the same steps and make visits that agree
  (`Catalog.Interchangeable.forall₂_walkFrom`).  This is the one induction that is not along a list:
  what is pending only has to be the same up to order.
* **Names, pages and files.**  From visits that agree follow equal names, pages with equal documents
  and equal files.
-/

set_option autoImplicit false

namespace ConfigDocs

/-- Related options are both empty, or hold related values. -/
theorem rel_cases {α β : Type} {r : α → β → Prop} {first : Option α} {second : Option β}
    (h : Option.Rel r first second) :
    (first = none ∧ second = none) ∨ ∃ x y, first = some x ∧ second = some y ∧ r x y := by
  cases h with
  | none => exact Or.inl ⟨rfl, rfl⟩
  | some hxy => exact Or.inr ⟨_, _, rfl, rfl, hxy⟩

/-! ## Types of which the same may be shown -/

/-- Whether a property may be shown: it is public and not excluded. -/
def Property.isVisible (p : Property) : Bool :=
  p.accessibility == .public && !p.isExcluded

namespace TypeDecl

/-- The properties of a type that may be shown, in order. -/
def visibleProperties (t : TypeDecl) : List Property :=
  t.properties.filter Property.isVisible

/-- Two types are the same but for their comments and properties. -/
structure SameOutline (t u : TypeDecl) : Prop where
  /-- They have the same name. -/
  name : t.name = u.name
  /-- They live in the same namespace. -/
  space : t.space = u.space
  /-- They are of the same kind. -/
  kind : t.kind = u.kind
  /-- They have the same members. -/
  members : t.members = u.members
  /-- Both enumerate their argument, or neither does. -/
  sequence : t.sequence = u.sequence
  /-- They have the same attributes. -/
  attributes : t.attributes = u.attributes

/-- Two types are the same but for properties that are not shown. -/
structure SameFace (t u : TypeDecl) : Prop extends SameOutline t u where
  /-- They have the same comment. -/
  documentation : t.documentation = u.documentation
  /-- They have the same visible properties, in the same order. -/
  visible : t.visibleProperties = u.visibleProperties

/-- Two types are the same but for what is not shown: all of the comment and the properties if the
type is excluded, and the properties that are not visible if it is not. -/
structure Agrees (t u : TypeDecl) : Prop extends SameOutline t u where
  /-- They have the same comment, unless they are excluded. -/
  documentation : t.isExcluded = false → t.documentation = u.documentation
  /-- They have the same visible properties, unless they are excluded. -/
  visible : t.isExcluded = false → t.visibleProperties = u.visibleProperties

variable {t u : TypeDecl}

theorem SameOutline.refl (t : TypeDecl) : t.SameOutline t :=
  ⟨rfl, rfl, rfl, rfl, rfl, rfl⟩

theorem SameFace.refl (t : TypeDecl) : t.SameFace t :=
  ⟨SameOutline.refl t, rfl, rfl⟩

theorem Agrees.refl (t : TypeDecl) : t.Agrees t :=
  ⟨SameOutline.refl t, fun _ ↦ rfl, fun _ ↦ rfl⟩

theorem Agrees.sameFace (h : t.Agrees u) (hshown : t.isExcluded = false) : t.SameFace u :=
  ⟨h.toSameOutline, h.documentation hshown, h.visible hshown⟩

namespace SameOutline

theorem fullName (h : t.SameOutline u) : t.fullName = u.fullName := by
  rw [TypeDecl.fullName, TypeDecl.fullName, h.name, h.space]

theorem isExcluded (h : t.SameOutline u) : t.isExcluded = u.isExcluded := by
  rw [TypeDecl.isExcluded, TypeDecl.isExcluded, h.attributes]

theorem friendlyName (h : t.SameOutline u) (qualified : Bool) :
    t.friendlyName qualified = u.friendlyName qualified := by
  rw [TypeDecl.friendlyName, TypeDecl.friendlyName, h.fullName, h.name]

theorem baseFileName (h : t.SameOutline u) (qualified : Bool) :
    Catalog.baseFileName t qualified = Catalog.baseFileName u qualified := by
  rw [Catalog.baseFileName, Catalog.baseFileName, h.fullName, h.name]

end SameOutline

end TypeDecl

/-- Two references resolve to the same, up to what is not shown. -/
inductive Resolved.Agrees : Resolved → Resolved → Prop
  | builtin (b : Builtin) : Agrees (.builtin b) (.builtin b)
  | declared {t u : TypeDecl} (h : t.Agrees u) : Agrees (.declared t) (.declared u)
  | unresolved : Agrees .unresolved .unresolved

namespace Catalog

/-! ## Interchangeable catalogues -/

/-- Two catalogues in which names stand for the same types, up to what is not shown. -/
structure Interchangeable (a b : Catalog) : Prop where
  /-- A name stands for types that agree, or for nothing in both. -/
  lookup : ∀ name context,
    Option.Rel TypeDecl.Agrees (a.lookup name context) (b.lookup name context)
  /-- The same namespaces are reserved. -/
  reserved : a.reserved = b.reserved
  /-- They have types of the same full names. -/
  names : (a.types.map TypeDecl.fullName).Perm (b.types.map TypeDecl.fullName)

/-- Of the visible properties only those of excluded types are left out. -/
theorem documentedProperties_eq_filter (catalog : Catalog) (t : TypeDecl) :
    catalog.documentedProperties t =
      t.visibleProperties.filter fun property ↦ !catalog.targetsExcluded t property := by
  rw [documentedProperties, TypeDecl.visibleProperties, List.filter_filter]
  refine List.filter_congr fun property _ ↦ ?_
  rw [isDocumentedProperty, Property.isVisible, Bool.and_comm]

namespace Interchangeable

variable {a b : Catalog} {t u : TypeDecl}

/-! ### Resolution -/

theorem agrees_resolve (h : a.Interchangeable b) (r : TypeRef) (context : String) :
    (a.resolve r context).Agrees (b.resolve r context) := by
  rw [resolve, resolve]
  cases r.stripNullable with
  | named name args =>
    dsimp only
    cases (TypeRef.named name args).builtin? with
    | some builtin => exact .builtin builtin
    | none =>
      rcases rel_cases (h.lookup name context) with ⟨ha, hb⟩ | ⟨x, y, ha, hb, hxy⟩
      · simp only [ha, hb]
        exact .unresolved
      · simp only [ha, hb]
        exact .declared hxy
  | array element => exact .unresolved
  | nullable inner => exact .unresolved
  | unparsed text => exact .unresolved

theorem isSequence_eq (h : a.Interchangeable b) (name context : String) :
    a.isSequence name context = b.isSequence name context := by
  rw [isSequence, isSequence]
  rcases rel_cases (h.lookup name context) with ⟨ha, hb⟩ | ⟨x, y, ha, hb, hxy⟩
  · rw [ha, hb]
  · rw [ha, hb]
    exact hxy.sequence

theorem effectiveType_eq (h : a.Interchangeable b) (r : TypeRef) (context : String) :
    a.effectiveType r context = b.effectiveType r context := by
  rw [effectiveType, effectiveType]
  split
  · rfl
  · rw [h.isSequence_eq]
  · rfl

theorem agrees_effectiveTarget (h : a.Interchangeable b) (htu : t.SameOutline u)
    (property : Property) :
    (a.effectiveTarget t property).Agrees (b.effectiveTarget u property) := by
  rw [effectiveTarget, effectiveTarget, htu.space, h.effectiveType_eq]
  exact h.agrees_resolve _ _

theorem isCustom_eq (h : a.Interchangeable b) (htu : t.SameOutline u) :
    a.isCustom t = b.isCustom u := by
  rw [isCustom, isCustom, isReserved, isReserved, htu.kind, htu.space, h.reserved]

theorem targetsExcluded_eq (h : a.Interchangeable b) (htu : t.SameOutline u)
    (property : Property) : a.targetsExcluded t property = b.targetsExcluded u property := by
  have hagrees := h.agrees_effectiveTarget htu property
  rw [targetsExcluded, targetsExcluded]
  generalize a.effectiveTarget t property = first at hagrees ⊢
  generalize b.effectiveTarget u property = second at hagrees ⊢
  cases hagrees with
  | builtin builtin => rfl
  | declared hxy => exact hxy.isExcluded
  | unresolved => rfl

/-- **Types with the same face document the same properties.** -/
theorem documentedProperties_eq (h : a.Interchangeable b) (htu : t.SameFace u) :
    a.documentedProperties t = b.documentedProperties u := by
  rw [documentedProperties_eq_filter, documentedProperties_eq_filter, htu.visible]
  refine List.filter_congr fun property _ ↦ ?_
  rw [h.targetsExcluded_eq htu.toSameOutline]

/-- **A documented property expands into types with the same face**, since it does not expand into
an excluded one. -/
theorem rel_customTarget (h : a.Interchangeable b) (htu : t.SameFace u) {property : Property}
    (hproperty : property ∈ a.documentedProperties t) :
    Option.Rel TypeDecl.SameFace (a.customTarget t property) (b.customTarget u property) := by
  have hagrees := h.agrees_effectiveTarget htu.toSameOutline property
  have hshown : a.targetsExcluded t property = false := by
    rw [documentedProperties_eq_filter, List.mem_filter, Bool.not_eq_true'] at hproperty
    exact hproperty.2
  rw [targetsExcluded] at hshown
  rw [customTarget, customTarget]
  generalize a.effectiveTarget t property = first at hagrees hshown ⊢
  generalize b.effectiveTarget u property = second at hagrees ⊢
  cases hagrees with
  | builtin builtin => exact .none
  | @declared x y hxy =>
    simp only [h.isCustom_eq hxy.toSameOutline]
    split
    · exact .some (hxy.sameFace hshown)
    · exact .none
  | unresolved => exact .none

/-! ### Values -/

theorem enumMembers_eq (h : a.Interchangeable b) (htu : t.SameOutline u) (r : TypeRef) :
    a.enumMembers t r = b.enumMembers u r := by
  have hagrees := h.agrees_resolve r u.space
  rw [enumMembers, enumMembers, htu.space]
  generalize a.resolve r u.space = first at hagrees ⊢
  generalize b.resolve r u.space = second at hagrees ⊢
  cases hagrees with
  | builtin builtin => rfl
  | declared hxy => simp only [hxy.kind, hxy.members]
  | unresolved => rfl

theorem defaultValue_eq (h : a.Interchangeable b) (htu : t.SameOutline u) (property : Property) :
    a.defaultValue t property = b.defaultValue u property := by
  rw [defaultValue, defaultValue, h.enumMembers_eq htu]

theorem exampleValue_eq (h : a.Interchangeable b) (htu : t.SameOutline u) (property : Property) :
    a.exampleValue t property = b.exampleValue u property := by
  simp only [exampleValue, synthesizedSample, h.enumMembers_eq htu]

/-- The table says the same about a property. -/
theorem ofProperty_eq (h : a.Interchangeable b) (htu : t.SameOutline u) (property : Property)
    (parameter : String) :
    PropertyEntry.ofProperty a t property parameter =
      PropertyEntry.ofProperty b u property parameter := by
  rw [PropertyEntry.ofProperty, PropertyEntry.ofProperty, h.defaultValue_eq htu,
    h.exampleValue_eq htu]

end Interchangeable

end Catalog

/-! ## The walk -/

/-- Two tasks are to visit the same documented property, of types with the same face. -/
structure Task.Agrees (catalog : Catalog) (task other : Task) : Prop where
  /-- Their owners have the same face. -/
  owner : task.owner.SameFace other.owner
  /-- They come along the same path. -/
  path : task.path = other.path
  /-- They are to the same property. -/
  property : task.property = other.property
  /-- The property is documented. -/
  documented : task.property ∈ catalog.documentedProperties task.owner

/-- Two visits are to the same property of types with the same face, or expand such types. -/
inductive Visit.Agrees : Visit → Visit → Prop
  | leaf {t u : TypeDecl} (h : t.SameFace u) (property : Property) (path : String) :
      Agrees (.leaf t property path) (.leaf u property path)
  | expand {t u : TypeDecl} (h : t.SameFace u) : Agrees (.expand t) (.expand u)

namespace Catalog

namespace Interchangeable

variable {a b : Catalog} {t u : TypeDecl}

theorem forall₂_tasksOf (h : a.Interchangeable b) (htu : t.SameFace u) (path : String) :
    List.Forall₂ (Task.Agrees a) (a.tasksOf t path) (b.tasksOf u path) := by
  rw [tasksOf, tasksOf, tasksFor, tasksFor, ← h.documentedProperties_eq htu,
    List.forall₂_map_left_iff, List.forall₂_map_right_iff, List.forall₂_same]
  intro property hproperty
  exact ⟨htu, rfl, rfl, hproperty⟩

theorem customTarget_eq_none (h : a.Interchangeable b) {task other : Task}
    (htask : task.Agrees a other) (hnone : a.customTarget task.owner task.property = none) :
    b.customTarget other.owner other.property = none := by
  have htarget := h.rel_customTarget htask.owner htask.documented
  rw [hnone, htask.property] at htarget
  rcases rel_cases htarget with ⟨-, hother⟩ | ⟨x, y, hx, -⟩
  · exact hother
  · cases hx

theorem exists_customTarget_eq_some (h : a.Interchangeable b) {task other : Task}
    (htask : task.Agrees a other) {target : TypeDecl}
    (hsome : a.customTarget task.owner task.property = some target) :
    ∃ u, b.customTarget other.owner other.property = some u ∧ target.SameFace u := by
  have htarget := h.rel_customTarget htask.owner htask.documented
  rw [hsome, htask.property] at htarget
  rcases rel_cases htarget with ⟨hnone, -⟩ | ⟨x, y, hx, hy, hface⟩
  · cases hnone
  · cases hx
    exact ⟨y, hy, hface⟩

/-- **The two walks agree**, from tasks that agree and with the same names pending. -/
theorem forall₂_walkFrom (h : a.Interchangeable b) {pending others : List String}
    (hpending : pending.Perm others) {tasks more : List Task}
    (htasks : List.Forall₂ (Task.Agrees a) tasks more) :
    List.Forall₂ Visit.Agrees (a.walkFrom pending tasks) (b.walkFrom others more) := by
  -- the second walk takes the step the first one takes, so the induction is along the first
  induction pending, tasks using walk_induction a generalizing others more with
  | nil pending =>
    cases htasks
    rw [walkFrom_nil, walkFrom_nil]
    exact .nil
  | leaf pending task rest hnone ih =>
    obtain ⟨other, moreRest, htask, hrest, rfl⟩ := List.forall₂_cons_left_iff.1 htasks
    rw [walkFrom_leaf hnone, walkFrom_leaf (h.customTarget_eq_none htask hnone), htask.path,
      htask.property]
    exact .cons (.leaf htask.owner _ _) (ih hpending hrest)
  | expand pending task rest target hsome hmem ih =>
    obtain ⟨other, moreRest, htask, hrest, rfl⟩ := List.forall₂_cons_left_iff.1 htasks
    obtain ⟨u, hother, hface⟩ := h.exists_customTarget_eq_some htask hsome
    have hmem' : u.fullName ∈ others := by
      rw [← hface.fullName]
      exact hpending.mem_iff.1 hmem
    rw [walkFrom_expand hsome hmem, walkFrom_expand hother hmem', ← htask.path, ← htask.property,
      ← hface.fullName]
    refine .cons (.expand hface) (ih (hpending.erase _) ?_)
    exact List.rel_append (h.forall₂_tasksOf hface _) hrest
  | skip pending task rest target hsome hmem ih =>
    obtain ⟨other, moreRest, htask, hrest, rfl⟩ := List.forall₂_cons_left_iff.1 htasks
    obtain ⟨u, hother, hface⟩ := h.exists_customTarget_eq_some htask hsome
    have hmem' : u.fullName ∉ others := by
      rw [← hface.fullName]
      exact fun hin ↦ hmem (hpending.mem_iff.2 hin)
    rw [walkFrom_skip hsome hmem, walkFrom_skip hother hmem']
    exact ih hpending hrest

theorem forall₂_walk (h : a.Interchangeable b) (htu : t.SameFace u) :
    List.Forall₂ Visit.Agrees (a.walk t) (b.walk u) := by
  refine h.forall₂_walkFrom ?_ (h.forall₂_tasksOf htu "")
  rw [othersThan, othersThan, htu.fullName]
  exact h.names.erase _

/-! ### One table -/

theorem rel_visitRow? (h : a.Interchangeable b) {visit other : Visit}
    (hvisit : visit.Agrees other) :
    Option.Rel Eq (a.visitRow? visit) (b.visitRow? other) := by
  cases hvisit with
  | leaf hface property path =>
    rw [visitRow?, visitRow?, h.ofProperty_eq hface.toSameOutline]
    exact .some rfl
  | expand hface => exact .none

theorem inlineRows_eq (h : a.Interchangeable b) (htu : t.SameFace u) :
    a.inlineRows t = b.inlineRows u := by
  have hrows :
      List.Forall₂ Eq ((a.walk t).filterMap a.visitRow?) ((b.walk u).filterMap b.visitRow?) :=
    List.rel_filterMap (fun _ _ hvisit ↦ h.rel_visitRow? hvisit) (h.forall₂_walk htu)
  rwa [List.forall₂_eq_eq_eq, ← inlineRows_eq_walk, ← inlineRows_eq_walk] at hrows

/-! ### One table for each type -/

theorem forall₂_discovered (h : a.Interchangeable b) (htu : t.SameFace u) :
    List.Forall₂ TypeDecl.SameFace (a.discovered t) (b.discovered u) := by
  refine .cons htu (List.rel_filterMap ?_ (h.forall₂_walk htu))
  intro visit other hvisit
  cases hvisit with
  | leaf hface property path => exact .none
  | expand hface => exact .some hface

end Interchangeable

/-- The same name is given to types with the same face. -/
structure EntryAgrees (entry other : TypeDecl × String) : Prop where
  /-- The types have the same face. -/
  type : entry.1.SameFace other.1
  /-- The names are the same. -/
  name : entry.2 = other.2

theorem claimNames_agree (options : PassOptions) {types others : List TypeDecl}
    (h : List.Forall₂ TypeDecl.SameFace types others) (ledger : Ledger) :
    List.Forall₂ EntryAgrees (claimNames options ledger types).1
        (claimNames options ledger others).1 ∧
      (claimNames options ledger types).2 = (claimNames options ledger others).2 := by
  induction h generalizing ledger with
  | nil => exact ⟨.nil, rfl⟩
  | cons hface _ ih =>
    rw [claimNames, claimNames, hface.baseFileName]
    exact ⟨.cons ⟨hface, rfl⟩ (ih _).1, (ih _).2⟩

theorem nameOf_eq_of_agrees {names others : List (TypeDecl × String)}
    (h : List.Forall₂ EntryAgrees names others) {t u : TypeDecl} (htu : t.SameOutline u) :
    nameOf names t = nameOf others u := by
  rw [nameOf, nameOf, htu.fullName]
  induction h with
  | nil => rfl
  | @cons entry other _ _ hentry _ ih =>
    rw [List.find?_cons, List.find?_cons, hentry.type.fullName]
    split
    · rw [Option.map_some, Option.map_some, hentry.name]
    · exact ih

namespace Interchangeable

variable {a b : Catalog} {t u : TypeDecl} {names others : List (TypeDecl × String)}

theorem separateRow_eq (h : a.Interchangeable b) (hnames : List.Forall₂ EntryAgrees names others)
    (htu : t.SameFace u) {property : Property} (hproperty : property ∈ a.documentedProperties t) :
    a.separateRow names t property = b.separateRow others u property := by
  have htarget := h.rel_customTarget htu hproperty
  rw [separateRow, separateRow, h.ofProperty_eq htu.toSameOutline]
  rcases rel_cases htarget with ⟨ha, hb⟩ | ⟨x, y, ha, hb, hface⟩
  · rw [ha, hb]
  · rw [ha, hb]
    simp only [nameOf_eq_of_agrees hnames hface.toSameOutline]

theorem separateRows_eq (h : a.Interchangeable b) (hnames : List.Forall₂ EntryAgrees names others)
    (htu : t.SameFace u) : a.separateRows names t = b.separateRows others u := by
  rw [separateRows, separateRows, ← h.documentedProperties_eq htu]
  exact List.map_congr_left fun property hproperty ↦ h.separateRow_eq hnames htu hproperty

end Interchangeable

end Catalog

/-! ## Pages, files and plans -/

/-- Two pages say the same and go to the same file. -/
structure Page.Agrees (page other : Page) : Prop where
  /-- They document types with the same face. -/
  subject : page.subject.SameFace other.subject
  /-- They go to the file of the same name, if they have one. -/
  fileName : page.fileName = other.fileName
  /-- They say the same. -/
  document : page.document = other.document

theorem rootDocument_eq {t u : TypeDecl} (htu : t.SameFace u) (options : PassOptions)
    (rows : List Row) : rootDocument t options rows = rootDocument u options rows := by
  rw [rootDocument, rootDocument, htu.friendlyName, htu.documentation]

theorem nestedDocument_eq {t u : TypeDecl} (htu : t.SameFace u) (options : PassOptions)
    (rows : List Row) : nestedDocument t options rows = nestedDocument u options rows := by
  rw [nestedDocument, nestedDocument, htu.friendlyName, htu.documentation]

namespace Catalog.Interchangeable

variable {a b : Catalog} {t u : TypeDecl}

theorem forall₂_pagesOf (h : a.Interchangeable b) (options : PassOptions)
    {names others : List (TypeDecl × String)} (hnames : List.Forall₂ EntryAgrees names others) :
    List.Forall₂ Page.Agrees (a.pagesOf options names) (b.pagesOf options others) := by
  cases hnames with
  | nil => exact .nil
  | @cons root other nested more hroot hnested =>
    have hall := List.Forall₂.cons hroot hnested
    rw [pagesOf, pagesOf]
    refine .cons ⟨hroot.type, congrArg some hroot.name, ?_⟩ ?_
    · rw [rootPage, rootPage, h.separateRows_eq hall hroot.type]
      exact rootDocument_eq hroot.type options _
    · rw [List.forall₂_map_left_iff, List.forall₂_map_right_iff]
      refine hnested.imp fun entry other hentry ↦ ⟨hentry.type, congrArg some hentry.name, ?_⟩
      rw [nestedPage, nestedPage, h.separateRows_eq hall hentry.type]
      exact nestedDocument_eq hentry.type options _

/-- **The two catalogues give pages that agree**, and claim the same names. -/
theorem forall₂_pages (h : a.Interchangeable b) (htu : t.SameFace u) (options : PassOptions)
    (ledger : Ledger) :
    List.Forall₂ Page.Agrees (a.pages t options ledger).1 (b.pages u options ledger).1 ∧
      (a.pages t options ledger).2 = (b.pages u options ledger).2 := by
  rw [pages, pages]
  cases options.layout with
  | inline =>
    refine ⟨.cons ⟨htu, rfl, ?_⟩ .nil, rfl⟩
    rw [inlinePage, inlinePage, h.inlineRows_eq htu]
    exact rootDocument_eq htu options _
  | separate =>
    obtain ⟨hnames, hledger⟩ := claimNames_agree options (h.forall₂_discovered htu) ledger
    dsimp only
    rw [separatePages_eq, separatePages_eq]
    exact ⟨h.forall₂_pagesOf options hnames, hledger⟩

end Catalog.Interchangeable

namespace Project

theorem pagePath_eq (target : OutputTarget) (options : PassOptions) (ledger : Ledger)
    {page other : Page} (h : page.Agrees other) :
    pagePath target options ledger page = pagePath target options ledger other := by
  unfold pagePath
  rw [h.fileName, h.subject.baseFileName]

theorem renderPages_eq (target : OutputTarget) (options : PassOptions) (ledger : Ledger)
    {pages others : List Page} (h : List.Forall₂ Page.Agrees pages others) :
    renderPages target options ledger pages = renderPages target options ledger others := by
  induction h generalizing ledger with
  | nil => rfl
  | cons hpage _ ih =>
    rw [renderPages, renderPages, pagePath_eq target options ledger hpage, hpage.document, ih]

end Project

namespace Catalog.Interchangeable

variable {a b : Catalog} {t u : TypeDecl}

theorem filesFor_eq (h : a.Interchangeable b) (htu : t.SameFace u) (directory : Path)
    (name : Option String) (options : PassOptions) (target : OutputTarget) :
    (Project.mk a directory name).filesFor t options target =
      (Project.mk b directory name).filesFor u options target := by
  obtain ⟨hpages, hledger⟩ := h.forall₂_pages htu options .empty
  rw [Project.filesFor, Project.filesFor]
  dsimp only
  rw [hledger]
  exact Project.renderPages_eq target options _ hpages

/-- **Interchangeable catalogues have the same plans**, whatever the disk is like. -/
theorem plan_eq {m : Type → Type} [Monad m] [Disk m] (h : a.Interchangeable b)
    (htu : t.SameFace u) (directory : Path) (name : Option String) (options : PassOptions) :
    ((Project.mk a directory name).plan t options : m Plan) =
      (Project.mk b directory name).plan u options := by
  have hplan : ∀ target, (Project.mk a directory name).planFor t options target =
      (Project.mk b directory name).planFor u options target := by
    intro target
    rw [Project.planFor, Project.planFor, h.filesFor_eq htu, htu.fullName]
  rw [Project.plan, Project.plan]
  simp only [hplan]

end Catalog.Interchangeable

end ConfigDocs
