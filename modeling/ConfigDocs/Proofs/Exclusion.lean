import ConfigDocs.Proofs.Interchange

/-!
# What is excluded does not show

A property that is not public, and a property or a type with the marker
`ExcludeFromDocumentation`, is kept out of the documentation.  It should be kept out altogether: not
only is it not mentioned, nothing that is said depends on it.  So the statement is about two
catalogues that differ in what is excluded, and says that every pass over them has the same plan.

Two catalogues *agree* if they declare the same types in the same order up to what is not shown
(`TypeDecl.Agrees`).  How a type is found does not depend on anything that is not shown: full names
and simple names are part of the outline, so the two catalogues find types that agree
(`Catalog.Agrees.rel_lookup`).  The rest is that such catalogues are interchangeable.
-/

set_option autoImplicit false

namespace ConfigDocs

namespace Catalog

/-- Two catalogues have the same types, in the same order, up to what is not shown. -/
structure Agrees (a b : Catalog) : Prop where
  /-- Their types agree one by one. -/
  types : List.Forall₂ TypeDecl.Agrees a.types b.types
  /-- The same namespaces are reserved. -/
  reserved : a.reserved = b.reserved

/-! ## Looking names up -/

theorem rel_or {α β : Type} {r : α → β → Prop} {first first' : Option α} {second second' : Option β}
    (h : Option.Rel r first second) (h' : Option.Rel r first' second') :
    Option.Rel r (first.or first') (second.or second') := by
  cases h with
  | some hxy => exact .some hxy
  | none => exact h'

namespace Agrees

variable {a b : Catalog}

/-- What a test that only sees the outline keeps of the types of one catalogue agrees with what it
keeps of the types of the other. -/
theorem forall₂_filter (h : a.Agrees b) (p : TypeDecl → Bool)
    (hp : ∀ t u : TypeDecl, t.SameOutline u → p t = p u) :
    List.Forall₂ TypeDecl.Agrees (a.types.filter p) (b.types.filter p) := by
  refine List.rel_filter (fun t u htu ↦ ?_) h.types
  have hpu : p t = p u := hp t u htu.toSameOutline
  simp only [hpu]

theorem rel_withFullName (h : a.Agrees b) (name : String) :
    Option.Rel TypeDecl.Agrees (a.withFullName name) (b.withFullName name) := by
  have hfilter := h.forall₂_filter (fun t ↦ t.fullName == name) fun t u htu ↦ by
    rw [htu.fullName]
  rw [withFullName, withFullName, ← List.head?_filter, ← List.head?_filter]
  generalize a.types.filter (fun t ↦ t.fullName == name) = first at hfilter ⊢
  generalize b.types.filter (fun t ↦ t.fullName == name) = second at hfilter ⊢
  cases hfilter with
  | nil => exact .none
  | cons hhead _ => exact .some hhead

theorem rel_onlyNamed (h : a.Agrees b) (name : String) :
    Option.Rel TypeDecl.Agrees (a.onlyNamed name) (b.onlyNamed name) := by
  have hfilter := h.forall₂_filter (fun t ↦ t.name == name) fun t u htu ↦ by rw [htu.name]
  rw [onlyNamed, onlyNamed]
  generalize a.types.filter (fun t ↦ t.name == name) = first at hfilter ⊢
  generalize b.types.filter (fun t ↦ t.name == name) = second at hfilter ⊢
  cases hfilter with
  | nil => exact .none
  | cons hhead hrest =>
    cases hrest with
    | nil => exact .some hhead
    | cons _ _ => exact .none

/-- **A name stands for types that agree.** -/
theorem rel_lookup (h : a.Agrees b) (name context : String) :
    Option.Rel TypeDecl.Agrees (a.lookup name context) (b.lookup name context) := by
  rw [lookup_eq_or, lookup_eq_or]
  refine rel_or (h.rel_withFullName _) (rel_or ?_ ?_)
  · split
    · exact .none
    · exact h.rel_withFullName _
  · split
    · exact .none
    · exact h.rel_onlyNamed _

theorem interchangeable (h : a.Agrees b) : a.Interchangeable b where
  lookup := h.rel_lookup
  reserved := h.reserved
  names := by
    have hnames : a.types.map TypeDecl.fullName = b.types.map TypeDecl.fullName := by
      rw [← List.forall₂_eq_eq_eq, List.forall₂_map_left_iff, List.forall₂_map_right_iff]
      exact h.types.imp fun t u htu ↦ htu.fullName
    rw [hnames]

end Agrees

/-- Types at the same place agree. -/
theorem Agrees.of_getElem? {a b : Catalog} (h : a.Agrees b) {i : Nat} {t u : TypeDecl}
    (ht : a.types[i]? = some t) (hu : b.types[i]? = some u) : t.Agrees u := by
  obtain ⟨hlt, rfl⟩ := List.getElem?_eq_some_iff.1 ht
  obtain ⟨hlt', rfl⟩ := List.getElem?_eq_some_iff.1 hu
  exact h.types.get hlt hlt'

/-! ## Two runs that differ in what is excluded -/

/-- **What is excluded does not show.**  If two catalogues agree, a pass over types that stand at
the same place in them and are not excluded has the same plan: the same files with the same
contents, and the same to report. -/
theorem plan_eq_of_agrees {m : Type → Type} [Monad m] [Disk m] {a b : Catalog} (h : a.Agrees b)
    {i : Nat} {t u : TypeDecl} (ht : a.types[i]? = some t) (hu : b.types[i]? = some u)
    (hshown : t.isExcluded = false) (directory : Path) (name : Option String)
    (options : PassOptions) :
    ((Project.mk a directory name).plan t options : m Plan) =
      (Project.mk b directory name).plan u options := by
  have hface : t.SameFace u := (h.of_getElem? ht hu).sameFace hshown
  exact h.interchangeable.plan_eq hface directory name options

/-- The marker that keeps a declaration out of the documentation. -/
def exclusionMarker : Attribute :=
  ⟨exclusionAttribute, []⟩

/-- A key, which is kept out of the documentation, with whatever comment and properties. -/
def hiddenKey (documentation : Option String) (properties : List Property) : TypeDecl :=
  { plainClass "Key" properties with documentation, attributes := [exclusionMarker] }

/-- A vault with a public label and a public key, among other properties. -/
def vault (before after : List Property) : TypeDecl :=
  plainClass "Vault"
    (before ++ plainProperty "Label" "string" :: plainProperty "Door" "Key" :: after)

/-- A vault that also has a private property with an initial value. -/
def openVault : TypeDecl :=
  let code := plainProperty "Code" "int"
  vault [{ code with accessibility := .private, initializer := some "1234" }] []

/-- A vault that also has a property of another vault, which is excluded. -/
def closedVault : TypeDecl :=
  vault [] [{ plainProperty "Inner" "Vault" with attributes := [exclusionMarker] }]

/-- An open vault and its key. -/
def openVaults : Catalog where
  types := [openVault, hiddenKey (some "<summary>For everyone.</summary>") []]
  reserved := defaultReserved
  distinct := by decide

/-- A closed vault and its key. -/
def closedVaults : Catalog where
  types := [closedVault, hiddenKey none [plainProperty "Teeth" "int"]]
  reserved := defaultReserved
  distinct := by decide

theorem openVaults_agrees : openVaults.Agrees closedVaults where
  types := by
    refine .cons ⟨⟨rfl, rfl, rfl, rfl, rfl, rfl⟩, fun _ ↦ rfl, fun _ ↦ by decide⟩ ?_
    refine .cons ⟨⟨rfl, rfl, rfl, rfl, rfl, rfl⟩, fun hshown ↦ ?_, fun hshown ↦ ?_⟩ .nil
    · revert hshown
      decide
    · revert hshown
      decide
  reserved := rfl

/-- The documentation of a vault gives away neither its code nor its key. -/
theorem plan_eq_of_agrees_vault :
    openVaults.Agrees closedVaults ∧ openVault.isExcluded = false ∧
      ((Project.mk openVaults ⟨""⟩ none).plan openVault ⟨.markdown, "docs", .inline, false⟩ :
          StateM FileSystem Plan) =
        (Project.mk closedVaults ⟨""⟩ none).plan closedVault ⟨.markdown, "docs", .inline, false⟩ :=
  ⟨openVaults_agrees, by decide,
    plan_eq_of_agrees openVaults_agrees (i := 0) rfl rfl (by decide) ⟨""⟩ none
      ⟨.markdown, "docs", .inline, false⟩⟩

end Catalog

end ConfigDocs
