import Mathlib.Data.List.Nodup
import ConfigDocs.Proofs.NameLookup

/-!
# Merging model files

The declarations of model files become one catalogue if no two of them have the same full name, and
otherwise the merge fails and names a culprit.  Which one is a matter of order: the declarations are
taken one after the other, file by file, and it is the first that has the full name of one before it
(`Catalog.IsFirstRepeat`).

The names met so far are in the index of names, and they are distinct until one is met again.  So
entering declarations into an index stops at the first whose full name is in it or has been entered
since (`Index.enterAll_eq_error_iff`).  Nothing is asked of a declaration but its full name, so it
does not matter how that is split into a namespace and a simple name, nor how the declarations are
split into files (`ModelFile.merge_findsRepeats`).
-/

set_option autoImplicit false

namespace ConfigDocs

/-! ## Errors put in other words -/

section MapError

variable {ε ε' α : Type} {x : Except ε α} {f : ε → ε'}

theorem mapError_eq_ok_iff {a : α} : x.mapError f = .ok a ↔ x = .ok a := by
  cases x <;> simp [Except.mapError]

theorem mapError_eq_error_iff {e' : ε'} :
    x.mapError f = .error e' ↔ ∃ e, x = .error e ∧ e' = f e := by
  cases x <;> simp [Except.mapError, eq_comm]

end MapError

/-! ## The first repeated name -/

/-- The name is the first of the names that has been seen or comes a second time. -/
def RepeatsFirst (seen names : List String) (name : String) : Prop :=
  ∃ before after, names = before ++ name :: after ∧ (name ∈ before ∨ name ∈ seen) ∧
    before.Nodup ∧ ∀ other ∈ before, other ∉ seen

section RepeatsFirst

variable {seen names : List String} {name first : String}

theorem not_repeatsFirst_nil : ¬RepeatsFirst seen [] name := by
  rintro ⟨before, after, heq, -⟩
  simp at heq

/-- A name that has been seen is the first to repeat one, whatever follows. -/
theorem repeatsFirst_cons_of_mem (h : first ∈ seen) :
    RepeatsFirst seen (first :: names) name ↔ first = name := by
  constructor
  · rintro ⟨before, after, heq, -, -, hfresh⟩
    cases before with
    | nil => exact (List.cons.inj heq).1
    | cons other before =>
      obtain ⟨rfl, -⟩ := List.cons.inj heq
      exact absurd h (hfresh first (List.mem_cons_self ..))
  · rintro rfl
    exact ⟨[], names, rfl, .inr h, List.nodup_nil, nofun⟩

/-- A name that has not been seen is seen from then on. -/
theorem repeatsFirst_cons_of_notMem (h : first ∉ seen) :
    RepeatsFirst seen (first :: names) name ↔ RepeatsFirst (first :: seen) names name := by
  constructor
  · rintro ⟨before, after, heq, hname, hnodup, hfresh⟩
    cases before with
    | nil =>
      obtain ⟨rfl, -⟩ := List.cons.inj heq
      exact absurd (hname.resolve_left List.not_mem_nil) h
    | cons other before =>
      obtain ⟨rfl, rfl⟩ := List.cons.inj heq
      rw [List.nodup_cons] at hnodup
      rw [List.forall_mem_cons] at hfresh
      refine ⟨before, after, rfl, ?_, hnodup.2, fun x hx ↦ ?_⟩
      · rwa [List.mem_cons, or_assoc, or_left_comm, ← List.mem_cons] at hname
      · rw [List.mem_cons, not_or]
        exact ⟨fun heq ↦ hnodup.1 (heq ▸ hx), hfresh.2 x hx⟩
  · rintro ⟨before, after, rfl, hname, hnodup, hfresh⟩
    simp only [List.mem_cons, not_or] at hname hfresh
    refine ⟨first :: before, after, rfl, ?_, ?_, ?_⟩
    · rwa [List.mem_cons, or_assoc, or_left_comm]
    · exact List.nodup_cons.2 ⟨fun hmem ↦ (hfresh first hmem).1 rfl, hnodup⟩
    · exact List.forall_mem_cons.2 ⟨h, fun other hother ↦ (hfresh other hother).2⟩

end RepeatsFirst

namespace Index

theorem mem_of_withFullName_eq_some {index : Index} {name : String} {t : TypeDecl}
    (h : index.withFullName name = some t) : name ∈ index.byFullName.map Prod.fst := by
  obtain ⟨before, after, heq, -⟩ := List.lookup_eq_some_iff.1 h
  rw [heq]
  simp

theorem notMem_of_withFullName_eq_none {index : Index} {name : String}
    (h : index.withFullName name = none) : name ∉ index.byFullName.map Prod.fst := by
  rintro hmem
  obtain ⟨entry, hentry, rfl⟩ := List.mem_map.1 hmem
  simpa using List.lookup_eq_none_iff.1 h entry hentry

/-- **Entering declarations stops at the first repeated full name**, and at no other. -/
theorem enterAll_eq_error_iff {index : Index} {types : List TypeDecl} {name : String} :
    index.enterAll types = .error name ↔
      RepeatsFirst (index.byFullName.map Prod.fst) (types.map TypeDecl.fullName) name := by
  induction types generalizing index with
  | nil => exact iff_of_false nofun not_repeatsFirst_nil
  | cons t types ih =>
    rw [enterAll, List.map_cons]
    split
    · rename_i u hu
      rw [repeatsFirst_cons_of_mem (mem_of_withFullName_eq_some hu), Except.error.injEq]
    · rename_i hnone
      rw [repeatsFirst_cons_of_notMem (notMem_of_withFullName_eq_none hnone), ih]
      rfl

end Index

namespace Catalog

/-- The declaration has the full name of an earlier one, and it is the first that does. -/
def IsFirstRepeat (types : List TypeDecl) (t : TypeDecl) : Prop :=
  ∃ before after, types = before ++ t :: after ∧
    t.fullName ∈ before.map TypeDecl.fullName ∧ (before.map TypeDecl.fullName).Nodup

theorem repeatsFirst_fullName_iff {types : List TypeDecl} {name : String} :
    RepeatsFirst [] (types.map TypeDecl.fullName) name ↔
      ∃ t, IsFirstRepeat types t ∧ name = t.fullName := by
  constructor
  · rintro ⟨names, others, heq, hname, hnodup, -⟩
    obtain ⟨before, rest, rfl, rfl, hrest⟩ := List.map_eq_append_iff.1 heq
    obtain ⟨t, after, rfl, rfl, rfl⟩ := List.map_eq_cons_iff.1 hrest
    exact ⟨t, ⟨before, after, rfl, hname.resolve_right List.not_mem_nil, hnodup⟩, rfl⟩
  · rintro ⟨t, ⟨before, after, rfl, hname, hnodup⟩, rfl⟩
    refine ⟨before.map TypeDecl.fullName, after.map TypeDecl.fullName, ?_, .inl hname, hnodup, ?_⟩
    · rw [List.map_append, List.map_cons]
    · exact fun _ _ ↦ List.not_mem_nil

theorem ofDeclarations_eq_error_iff {types : List TypeDecl} {name : String} :
    ofDeclarations types = .error name ↔ ∃ t, IsFirstRepeat types t ∧ name = t.fullName := by
  have hentered : Index.empty.enterAll types = .error name ↔
      ∃ t, IsFirstRepeat types t ∧ name = t.fullName := by
    rw [Index.enterAll_eq_error_iff]
    exact repeatsFirst_fullName_iff
  rw [← hentered, ofDeclarations]
  split
  · rename_i repeated hrepeated
    rw [hrepeated, Except.error.injEq, Except.error.injEq]
  · rename_i index hindex
    exact iff_of_false nofun fun herror ↦ nomatch hindex.symm.trans herror

/-- Declarations that are accepted make the catalogue of just these declarations. -/
theorem ofDeclarations_eq_ok_iff {types : List TypeDecl} {catalog : Catalog} :
    ofDeclarations types = .ok catalog ↔
      catalog.types = types ∧ catalog.reserved = defaultReserved := by
  constructor
  · intro h
    obtain rfl := types_of_ofDeclarations h
    rw [ofDeclarations_of_nodup catalog.distinct] at h
    exact ⟨rfl, (congrArg Catalog.reserved (Except.ok.inj h)).symm⟩
  · rintro ⟨rfl, hreserved⟩
    rw [ofDeclarations_of_nodup catalog.distinct]
    exact congrArg _ (eq_of_types_eq rfl hreserved.symm)

/-- Two declarations have the same full name if and only if the full names are not distinct. -/
theorem exists_sameName_iff {types : List TypeDecl} :
    (∃ t u : TypeDecl, [t, u].Sublist types ∧ t.fullName = u.fullName) ↔
      ¬(types.map TypeDecl.fullName).Nodup := by
  rw [List.nodup_iff_sublist, not_forall]
  simp only [not_not]
  constructor
  · rintro ⟨t, u, hsub, hname⟩
    refine ⟨t.fullName, ?_⟩
    have hmap := hsub.map TypeDecl.fullName
    rwa [List.map_cons, List.map_singleton, ← hname] at hmap
  · rintro ⟨name, hsub⟩
    obtain ⟨pair, hpair, hnames⟩ := List.sublist_map_iff.1 hsub
    obtain ⟨t, more, rfl, ht, hmore⟩ := List.map_eq_cons_iff.1 hnames.symm
    obtain ⟨u, rest, rfl, hu, hrest⟩ := List.map_eq_cons_iff.1 hmore
    rw [List.map_eq_nil_iff.1 hrest] at hpair
    exact ⟨t, u, hpair, ht.trans hu.symm⟩

end Catalog

namespace ModelFile

open Catalog (IsFirstRepeat)

section Merge

variable {files : List ModelFile}

theorem merge_eq_error_iff {error : Error} :
    merge files = .error error ↔
      ∃ t, IsFirstRepeat (files.flatMap ModelFile.types) t ∧ error = .repeatedType t.fullName := by
  rw [merge, mapError_eq_error_iff]
  simp only [Catalog.ofDeclarations_eq_error_iff]
  constructor
  · rintro ⟨name, ⟨t, ht, rfl⟩, rfl⟩
    exact ⟨t, ht, rfl⟩
  · rintro ⟨t, ht, rfl⟩
    exact ⟨t.fullName, ⟨t, ht, rfl⟩, rfl⟩

theorem merge_eq_ok_iff {catalog : Catalog} :
    merge files = .ok catalog ↔
      catalog.types = files.flatMap ModelFile.types ∧ catalog.reserved = defaultReserved := by
  rw [merge, mapError_eq_ok_iff, Catalog.ofDeclarations_eq_ok_iff]

/-- A merge fails if and only if full names are repeated. -/
theorem exists_merge_eq_error_iff :
    (∃ error, merge files = .error error) ↔
      ¬((files.flatMap ModelFile.types).map TypeDecl.fullName).Nodup := by
  constructor
  · rintro ⟨error, herror⟩ hdistinct
    rw [merge, Catalog.ofDeclarations_of_nodup hdistinct] at herror
    cases herror
  · intro hrepeated
    obtain ⟨name, hname⟩ := Catalog.ofDeclarations_of_not_nodup hrepeated
    exact ⟨.repeatedType name, by rw [merge, hname]; rfl⟩

end Merge

/-- **Merging finds exactly the repeated types.**  It fails if and only if two declarations in the
files have the same full name, and then it reports the first one whose full name is that of an
earlier one.  Otherwise the catalogue holds all declarations in the order of the files.  What is in
which file makes no difference beyond that order. -/
theorem merge_findsRepeats (files : List ModelFile) :
    ((∃ error, merge files = .error error) ↔
      ∃ t u : TypeDecl, [t, u].Sublist (files.flatMap ModelFile.types) ∧
        t.fullName = u.fullName) ∧
    (∀ error, merge files = .error error ↔
      ∃ t, IsFirstRepeat (files.flatMap ModelFile.types) t ∧ error = .repeatedType t.fullName) ∧
    (∀ catalog, merge files = .ok catalog ↔
      catalog.types = files.flatMap ModelFile.types ∧ catalog.reserved = defaultReserved) ∧
    ∀ others : List ModelFile, others.flatMap ModelFile.types = files.flatMap ModelFile.types →
      merge others = merge files := by
  refine ⟨?_, fun error ↦ merge_eq_error_iff, fun catalog ↦ merge_eq_ok_iff, fun others h ↦ ?_⟩
  · rw [exists_merge_eq_error_iff, Catalog.exists_sameName_iff]
  · rw [merge, merge, h]

/-- A class with a dot in its name. -/
def dottedClass : TypeDecl := Catalog.plainClass "A.B" []

/-- A class with the same full name, of which a part is the namespace. -/
def qualifiedClass : TypeDecl :=
  { Catalog.plainClass "B" [] with space := "A" }

/-- The two classes are taken for the same type, whether they are declared in one file or in two. -/
theorem merge_findsRepeats_split :
    [⟨[dottedClass, Catalog.pool, qualifiedClass]⟩].flatMap ModelFile.types =
        [⟨[dottedClass]⟩, ⟨[Catalog.pool, qualifiedClass]⟩].flatMap ModelFile.types ∧
      merge [⟨[dottedClass]⟩, ⟨[Catalog.pool, qualifiedClass]⟩] = .error (.repeatedType "A.B") ∧
      merge [⟨[dottedClass, Catalog.pool, qualifiedClass]⟩] = .error (.repeatedType "A.B") := by
  obtain ⟨-, herror, -, hsplit⟩ :=
    merge_findsRepeats [⟨[dottedClass]⟩, ⟨[Catalog.pool, qualifiedClass]⟩]
  have hmerge : merge [⟨[dottedClass]⟩, ⟨[Catalog.pool, qualifiedClass]⟩] =
      .error (.repeatedType "A.B") :=
    (herror _).2 ⟨qualifiedClass, ⟨[dottedClass, Catalog.pool], [], rfl, by decide, by decide⟩,
      by decide⟩
  exact ⟨rfl, hmerge, (hsplit _ rfl).trans hmerge⟩

end ModelFile

end ConfigDocs
