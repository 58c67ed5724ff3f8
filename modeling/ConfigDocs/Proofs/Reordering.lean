import Mathlib.Data.List.Find
import ConfigDocs.Loading
import ConfigDocs.Proofs.Interchange

/-!
# The order of declarations does not matter

A catalogue keeps its types in the order in which they were declared, and model files are merged in
the order in which they were given.  That order decides which passes come first, but nothing about
a single pass: declarations in another order make a catalogue in which every name stands for the
same type and every pass has the same plan, or they make none in either order.

The reason is that a catalogue is only ever asked for *the* type of a name.  Full names are
distinct, so there is at most one type of a full name wherever it stands
(`Catalog.withFullName_eq_of_perm`), and a simple name stands for a type only if no other type has
it (`Catalog.onlyNamed_eq_of_perm`).
-/

set_option autoImplicit false

namespace ConfigDocs

/-! ## Which declarations make a catalogue -/

namespace Catalog

/-- Declarations whose full names are distinct make a catalogue of just these declarations. -/
theorem ofDeclarations_of_nodup {types : List TypeDecl}
    (h : (types.map TypeDecl.fullName).Nodup) :
    ofDeclarations types = .ok { types, reserved := defaultReserved, distinct := h } := by
  have hentered : Index.empty.enterAll types = .ok (types.foldl Index.enter Index.empty) :=
    Index.enterAll_eq_ok_iff.2 ⟨h, fun _ _ ↦ rfl, rfl⟩
  unfold ofDeclarations
  split
  · rename_i name hname
    rw [hentered] at hname
    cases hname
  · exact congrArg _ (eq_of_types_eq rfl rfl)

/-- Other declarations are refused. -/
theorem ofDeclarations_of_not_nodup {types : List TypeDecl}
    (h : ¬(types.map TypeDecl.fullName).Nodup) : ∃ name, ofDeclarations types = .error name := by
  unfold ofDeclarations
  split
  · exact ⟨_, rfl⟩
  · rename_i hentered
    exact absurd (Index.enterAll_eq_ok_iff.1 hentered).1 h

/-! ## Names in catalogues of the same declarations -/

section Perm

variable {a b : Catalog} (h : a.types.Perm b.types)

include h

theorem withFullName_eq_of_perm (name : String) : a.withFullName name = b.withFullName name := by
  refine List.find?_eq_find?_of_perm h ?_
  intro t ht u hu
  have htu : t.fullName = u.fullName := by
    rw [eq_of_beq ht.2, eq_of_beq hu.2]
  exact eq_of_fullName_eq ht.1 hu.1 htu

theorem onlyNamed_eq_of_perm (name : String) : a.onlyNamed name = b.onlyNamed name := by
  have hfilter := h.filter fun t ↦ t.name == name
  rw [onlyNamed, onlyNamed]
  generalize a.types.filter (fun t ↦ t.name == name) = first at hfilter ⊢
  generalize b.types.filter (fun t ↦ t.name == name) = second at hfilter ⊢
  have hlength := hfilter.length_eq
  -- only the one type of a name is ever returned, so two or more are as good as none
  rcases first with - | ⟨x, - | ⟨y, rest⟩⟩
  · rw [hfilter.nil_eq]
  · rw [hfilter.singleton_eq]
  · rcases second with - | ⟨x', - | ⟨y', rest'⟩⟩
    · cases hlength
    · cases hlength
    · rfl

/-- **A name stands for the same type**, in whatever order the types are declared. -/
theorem lookup_eq_of_perm (name context : String) :
    a.lookup name context = b.lookup name context := by
  simp only [lookup_eq_or, withFullName_eq_of_perm h, onlyNamed_eq_of_perm h]

theorem interchangeable_of_perm (hreserved : a.reserved = b.reserved) : a.Interchangeable b where
  lookup name context := by
    rw [lookup_eq_of_perm h]
    cases b.lookup name context with
    | none => exact .none
    | some t => exact .some (TypeDecl.Agrees.refl t)
  reserved := hreserved
  names := h.map _

end Perm

/-! ## Reordered declarations and files -/

/-- Names mean the same in two catalogues, and passes over the same type have the same plans,
whatever namespaces are reserved and whatever the disk is like. -/
structure Indistinguishable (a b : Catalog) : Prop where
  /-- They have the same types. -/
  types : ∀ t, t ∈ a.types ↔ t ∈ b.types
  /-- A name stands for the same type. -/
  lookup : ∀ name context, a.lookup name context = b.lookup name context
  /-- A pass has the same plan. -/
  plan : ∀ (m : Type → Type) [Monad m] [Disk m] (reserved : List String) (directory : Path)
    (name : Option String) (t : TypeDecl) (options : PassOptions),
    ((Project.mk (a.withReserved reserved) directory name).plan t options : m Plan) =
      (Project.mk (b.withReserved reserved) directory name).plan t options

theorem indistinguishable_of_perm {a b : Catalog} (h : a.types.Perm b.types) :
    a.Indistinguishable b where
  types _ := h.mem_iff
  lookup := lookup_eq_of_perm h
  plan m _ _ reserved directory name t options := by
    have hreserved : (a.withReserved reserved).Interchangeable (b.withReserved reserved) :=
      interchangeable_of_perm h rfl
    exact hreserved.plan_eq (TypeDecl.SameFace.refl t) directory name options

/-- What becomes of two lists of declarations: both are refused because names are repeated, or both
make a catalogue of their declarations and the two are indistinguishable. -/
inductive SameOutcome {ε : Type} (types others : List TypeDecl) :
    Except ε Catalog → Except ε Catalog → Prop
  | refused (h : ¬(types.map TypeDecl.fullName).Nodup)
      (h' : ¬(others.map TypeDecl.fullName).Nodup) (error error' : ε) :
      SameOutcome types others (.error error) (.error error')
  | accepted {a b : Catalog} (ha : a.types = types) (hb : b.types = others)
      (h : a.Indistinguishable b) : SameOutcome types others (.ok a) (.ok b)

theorem sameOutcome_ofDeclarations {types others : List TypeDecl} (h : types.Perm others) :
    SameOutcome types others (ofDeclarations types) (ofDeclarations others) := by
  have hnodup : (types.map TypeDecl.fullName).Nodup ↔ (others.map TypeDecl.fullName).Nodup :=
    (h.map _).nodup_iff
  by_cases hdistinct : (types.map TypeDecl.fullName).Nodup
  · rw [ofDeclarations_of_nodup hdistinct, ofDeclarations_of_nodup (hnodup.1 hdistinct)]
    exact .accepted rfl rfl (indistinguishable_of_perm h)
  · have hclash : ¬(others.map TypeDecl.fullName).Nodup := fun h' ↦ hdistinct (hnodup.2 h')
    obtain ⟨name, hname⟩ := ofDeclarations_of_not_nodup hdistinct
    obtain ⟨name', hname'⟩ := ofDeclarations_of_not_nodup hclash
    rw [hname, hname']
    exact .refused hdistinct hclash name name'

theorem SameOutcome.mapError {ε ε' : Type} {types others : List TypeDecl}
    {first second : Except ε Catalog} (h : SameOutcome types others first second) (f : ε → ε') :
    SameOutcome types others (first.mapError f) (second.mapError f) := by
  cases h with
  | refused h h' error error' => exact .refused h h' _ _
  | accepted ha hb h => exact .accepted ha hb h

/-- **The order of declarations and of model files does not matter to a pass.** -/
theorem sameOutcome_of_perm :
    (∀ types others : List TypeDecl, types.Perm others →
      SameOutcome types others (ofDeclarations types) (ofDeclarations others)) ∧
    ∀ files others : List ModelFile, files.Perm others →
      SameOutcome (files.flatMap ModelFile.types) (others.flatMap ModelFile.types)
        (ModelFile.merge files) (ModelFile.merge others) := by
  refine ⟨fun types others h ↦ sameOutcome_ofDeclarations h, fun files others h ↦ ?_⟩
  rw [ModelFile.merge, ModelFile.merge]
  exact (sameOutcome_ofDeclarations (h.flatMap_right _)).mapError _

/-- Two types that lead to each other, declared in either order. -/
theorem sameOutcome_of_perm_circle :
    [server, pool].Perm [pool, server] ∧ ([server, pool].map TypeDecl.fullName).Nodup ∧
      SameOutcome [server, pool] [pool, server] (ofDeclarations [server, pool])
        (ofDeclarations [pool, server]) :=
  ⟨List.Perm.swap .., by decide, sameOutcome_of_perm.1 _ _ (List.Perm.swap ..)⟩

end Catalog

end ConfigDocs
