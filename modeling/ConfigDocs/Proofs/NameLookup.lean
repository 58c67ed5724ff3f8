import ConfigDocs.Proofs.Exclusion
import ConfigDocs.Proofs.NamedTypes
import ConfigDocs.Proofs.Reordering

/-!
# What a name stands for

A name is looked up in three ways, one after the other, and the first that finds a type decides.
Said without looking anything up, that is a rule about the declared types alone
(`Catalog.StandsFor`): the type has the name for its full name; or no type has, and it has the name
within the namespace in force; or no type has either, the name is not qualified, and no other type
goes by it.

The rule is the whole truth about `Catalog.lookup` (`Catalog.lookup_eq_some_iff_standsFor`).  For
each of the three readings there is a lemma that says what it finds, and precedence is what
`Option.or` does with them.
-/

set_option autoImplicit false

namespace ConfigDocs

/-! ## The marker -/

namespace Text

/-- The second name is the first one without a leading `global::`, if that is there. -/
def Unmarks (name plain : String) : Prop :=
  name = "global::" ++ plain ∨ ¬"global::".toList <+: name.toList ∧ plain = name

theorem unmarked_append (plain : String) : unmarked ("global::" ++ plain) = plain := by
  rw [unmarked, String.toList_append]
  exact (congrArg String.ofList (withoutGlobal_append _)).trans String.ofList_toList

theorem unmarks_iff {name plain : String} : Unmarks name plain ↔ plain = unmarked name := by
  constructor
  · rintro (rfl | ⟨hmark, rfl⟩)
    · exact (unmarked_append plain).symm
    · exact (unmarked_of_not_isPrefix hmark).symm
  · rintro rfl
    by_cases hmark : "global::".toList <+: name.toList
    · obtain ⟨rest, hrest⟩ := hmark
      have hname : name = "global::" ++ String.ofList rest := by
        rw [← String.toList_inj, String.toList_append, ← hrest]
        exact congrArg _ String.toList_ofList.symm
      rw [hname, unmarked_append]
      exact .inl rfl
    · exact .inr ⟨hmark, unmarked_of_not_isPrefix hmark⟩

end Text

namespace Catalog

/-! ## The three readings -/

section Readings

variable {catalog : Catalog} {name : String} {t : TypeDecl}

theorem withFullName_eq_none_iff :
    catalog.withFullName name = none ↔ ∀ u ∈ catalog.types, u.fullName ≠ name := by
  simp only [withFullName, List.find?_eq_none, beq_iff_eq, ne_eq]

/-- A simple name finds a type if that is the only one that has it. -/
theorem onlyNamed_eq_some_iff :
    catalog.onlyNamed name = some t ↔
      t ∈ catalog.types ∧ t.name = name ∧ ∀ u ∈ catalog.types, u.name = name → u = t := by
  have hfilter : catalog.onlyNamed name = some t ↔
      (catalog.types.filter fun u ↦ u.name == name) = [t] := by
    unfold onlyNamed
    split
    · rename_i only honly
      rw [honly, Option.some_inj, List.singleton_inj]
    · rename_i hmany
      exact iff_of_false nofun (hmany t)
  have hnodup : (catalog.types.filter fun u ↦ u.name == name).Nodup :=
    (catalog.distinct.of_map _).filter _
  rw [hfilter, ← List.perm_singleton, List.perm_ext_iff_of_nodup hnodup (List.nodup_singleton t)]
  simp only [List.mem_filter, beq_iff_eq, List.mem_singleton]
  constructor
  · intro h
    obtain ⟨ht, hname⟩ := (h t).2 rfl
    exact ⟨ht, hname, fun u hu hun ↦ (h u).1 ⟨hu, hun⟩⟩
  · rintro ⟨ht, hname, honly⟩ u
    exact ⟨fun hu ↦ honly u hu.1 hu.2, fun hu ↦ hu ▸ ⟨ht, hname⟩⟩

end Readings

/-! ## The rule -/

/-- What a name, without the marker, stands for among declared types where the namespace `context`
is in force. -/
inductive StandsFor (types : List TypeDecl) (plain context : String) (t : TypeDecl) : Prop
  /-- It is the full name of the type. -/
  | full (h : t.fullName = plain)
  /-- It is the full name of no type, and that of the type within the namespace in force. -/
  | within (hfull : ∀ u ∈ types, u.fullName ≠ plain) (hcontext : context ≠ "")
      (h : t.fullName = context ++ "." ++ plain)
  /-- It is the full name of no type in either way, it is not qualified, and the type is the only
  one with this simple name. -/
  | alone (hfull : ∀ u ∈ types, u.fullName ≠ plain)
      (hwithin : context ≠ "" → ∀ u ∈ types, u.fullName ≠ context ++ "." ++ plain)
      (hplain : '.' ∉ plain.toList) (h : t.name = plain)
      (honly : ∀ u ∈ types, u.name = plain → u = t)

/-- Declarations that are accepted are the types of the catalogue. -/
theorem types_of_ofDeclarations {types : List TypeDecl} {catalog : Catalog}
    (h : ofDeclarations types = .ok catalog) : catalog.types = types := by
  by_cases hdistinct : (types.map TypeDecl.fullName).Nodup
  · rw [ofDeclarations_of_nodup hdistinct] at h
    rw [← Except.ok.inj h]
  · obtain ⟨name, hname⟩ := ofDeclarations_of_not_nodup hdistinct
    rw [hname] at h
    cases h

theorem lookup_eq_some_iff {catalog : Catalog} {name context : String} {t : TypeDecl} :
    catalog.lookup name context = some t ↔
      t ∈ catalog.types ∧ StandsFor catalog.types (Text.unmarked name) context t := by
  have hcontext : context.isEmpty = true ↔ context = "" := String.isEmpty_iff
  rw [lookup_eq_or, Option.or_eq_some_iff, Option.or_eq_some_iff]
  simp only [Option.ite_none_left_eq_some, withFullName_eq_some_iff, withFullName_eq_none_iff,
    onlyNamed_eq_some_iff, List.contains_iff_mem, hcontext]
  constructor
  · rintro (⟨ht, h⟩ | ⟨hfull, ⟨hcontext, ht, h⟩ | ⟨hwithin, hplain, ht, h, honly⟩⟩)
    · exact ⟨ht, .full h⟩
    · exact ⟨ht, .within hfull hcontext h⟩
    · refine ⟨ht, .alone hfull (fun hne ↦ ?_) hplain h honly⟩
      rwa [if_neg hne, withFullName_eq_none_iff] at hwithin
  · rintro ⟨ht, h | ⟨hfull, hcontext, h⟩ | ⟨hfull, hwithin, hplain, h, honly⟩⟩
    · exact .inl ⟨ht, h⟩
    · exact .inr ⟨hfull, .inl ⟨hcontext, ht, h⟩⟩
    · refine .inr ⟨hfull, .inr ⟨?_, hplain, ht, h, honly⟩⟩
      split
      · rfl
      · rename_i hne
        exact withFullName_eq_none_iff.2 (hwithin hne)

/-- **A name stands for what the rule says**, in the catalogue of any declarations that make one.
In particular a full name behind the marker stands for its type wherever it is used. -/
theorem lookup_eq_some_iff_standsFor {types : List TypeDecl} {catalog : Catalog}
    (h : ofDeclarations types = .ok catalog) :
    (∀ name context t, catalog.lookup name context = some t ↔
      t ∈ types ∧ ∃ plain, Text.Unmarks name plain ∧ StandsFor types plain context t) ∧
    ∀ t ∈ types, ∀ context, catalog.lookup ("global::" ++ t.fullName) context = some t := by
  obtain rfl := types_of_ofDeclarations h
  constructor
  · intro name context t
    simp only [lookup_eq_some_iff, Text.unmarks_iff, exists_eq_left]
  · intro t ht context
    rw [lookup_eq_some_iff, Text.unmarked_append]
    exact ⟨ht, .full rfl⟩

/-- A simple name that two types share stands for the one in the namespace in force, and for neither
where none is. -/
theorem lookup_eq_some_iff_standsFor_namesakes :
    ofDeclarations namesakes.catalog.types = .ok namesakes.catalog ∧
      namesakes.catalog.lookup "Config" "Server" = some (namesake "Server" "How to answer.") ∧
      ∀ t, namesakes.catalog.lookup "global::Config" "" ≠ some t := by
  have haccepted : ofDeclarations namesakes.catalog.types = .ok namesakes.catalog :=
    ofDeclarations_of_nodup namesakes.catalog.distinct
  have hrule := (lookup_eq_some_iff_standsFor haccepted).1
  refine ⟨haccepted, (hrule _ _ _).2 ⟨by decide, "Config", ?_, ?_⟩, fun t ht ↦ ?_⟩
  · exact .inr ⟨by decide, rfl⟩
  · exact .within (by decide) (by decide) (by decide)
  · obtain ⟨hmem, plain, hplain, hstands⟩ := (hrule _ _ _).1 ht
    obtain rfl : plain = "Config" := Text.unmarks_iff.1 hplain
    rcases hstands with hfull | ⟨-, hcontext, -⟩ | ⟨-, -, -, -, honly⟩
    · have hnone : ∀ u ∈ namesakes.catalog.types, u.fullName ≠ "Config" := by decide
      exact hnone t hmem hfull
    · exact hcontext rfl
    · have hclient := honly (namesake "Client" "How to call.") (by decide) rfl
      have hserver := honly (namesake "Server" "How to answer.") (by decide) rfl
      exact absurd (hclient.trans hserver.symm) (by decide)

end Catalog

end ConfigDocs
