import ConfigDocs.Declaration

/-!
# The catalogue of declared types

A catalogue is the list of all types known to the documentation, in the order in which they were
declared, no two of them with the same full name.  That the full names are distinct is part of the
type (`Catalog.distinct`), so a full name identifies a type wherever one is needed, and
`Catalog.ofDeclarations` is the only place where a clash can be reported.

A type refers to another one by a name that is to be understood where it is used.
`Catalog.lookup` tries three readings in turn: the name in full, the name within the namespace of
the place of use, and, for a name that is not qualified, the one type of that simple name.

Names are not looked for among the declarations but in an index of them (`Index`), which is filled
in the same run that finds out whether a full name comes twice.  What is read off the index is what
a search through the declarations would find (`Catalog.index_withFullName`,
`Catalog.index_onlyNamed`), and everything that is proved of names speaks of that search
(`Catalog.lookup_eq_or`).
-/

set_option autoImplicit false

namespace ConfigDocs

/-! ## The index of names -/

/-- Declarations by their names. -/
structure Index where
  /-- The type of each full name, the last one entered first. -/
  byFullName : List (String × TypeDecl)
  /-- The types of each simple name, in the order in which they were entered. -/
  bySimpleName : List (String × List TypeDecl)

namespace Index

/-- The index of no declarations. -/
def empty : Index :=
  ⟨[], []⟩

/-- The entries with one more type under a simple name: behind the types that share the name, or in
an entry of its own. -/
def push (name : String) (t : TypeDecl) :
    List (String × List TypeDecl) → List (String × List TypeDecl)
  | [] => [(name, [t])]
  | (other, sharers) :: entries =>
    if other = name then (other, sharers ++ [t]) :: entries
    else (other, sharers) :: push name t entries

/-- The index with one more type, under both its names. -/
def enter (index : Index) (t : TypeDecl) : Index where
  byFullName := (t.fullName, t) :: index.byFullName
  bySimpleName := push t.name t index.bySimpleName

/-- The type entered under a full name. -/
def withFullName (index : Index) (name : String) : Option TypeDecl :=
  index.byFullName.lookup name

/-- The type entered under a simple name, if there is exactly one. -/
def onlyNamed (index : Index) (name : String) : Option TypeDecl :=
  match index.bySimpleName.lookup name with
  | some [only] => some only
  | _ => none

/-- The index with declarations entered one after the other, or the full name of the first one that
has the full name of one entered before. -/
def enterAll (index : Index) : List TypeDecl → Except String Index
  | [] => .ok index
  | t :: types =>
    match index.withFullName t.fullName with
    | some _ => .error t.fullName
    | none => (index.enter t).enterAll types

/-! ### What is entered -/

@[simp] theorem withFullName_empty (name : String) : empty.withFullName name = none := rfl

theorem withFullName_enter (index : Index) (t : TypeDecl) (name : String) :
    (index.enter t).withFullName name =
      if t.fullName = name then some t else index.withFullName name := by
  rw [withFullName, enter]
  by_cases h : t.fullName = name
  · rw [if_pos h, h, List.lookup_cons_self]
  · rw [if_neg h, List.lookup_cons, beq_false_of_ne (Ne.symm h), withFullName]

theorem withFullName_enter_eq_none_iff {index : Index} {t : TypeDecl} {name : String} :
    (index.enter t).withFullName name = none ↔
      t.fullName ≠ name ∧ index.withFullName name = none := by
  rw [withFullName_enter]
  by_cases h : t.fullName = name
  · simp [h]
  · simp [h]

/-- Declarations are entered without a clash exactly if their full names differ from those entered
before and from each other, and then all of them are. -/
theorem enterAll_eq_ok_iff {index result : Index} {types : List TypeDecl} :
    index.enterAll types = .ok result ↔
      (types.map TypeDecl.fullName).Nodup ∧
        (∀ t ∈ types, index.withFullName t.fullName = none) ∧
        types.foldl enter index = result := by
  induction types generalizing index with
  | nil => simp [enterAll]
  | cons t types ih =>
    rw [enterAll, List.map_cons, List.nodup_cons, List.foldl_cons, List.forall_mem_cons]
    cases hname : index.withFullName t.fullName with
    | some u => simp
    | none =>
      have hfresh : (∀ u ∈ types, (index.enter t).withFullName u.fullName = none) ↔
          t.fullName ∉ types.map TypeDecl.fullName ∧
            ∀ u ∈ types, index.withFullName u.fullName = none := by
        simp only [withFullName_enter_eq_none_iff, List.mem_map, not_exists, not_and]
        exact ⟨fun h ↦ ⟨fun u hu heq ↦ (h u hu).1 heq.symm, fun u hu ↦ (h u hu).2⟩,
          fun h u hu ↦ ⟨fun heq ↦ h.1 u hu heq.symm, h.2 u hu⟩⟩
      simp only [ih, hfresh, true_and]
      exact ⟨fun ⟨hnodup, ⟨hne, h⟩, hresult⟩ ↦ ⟨⟨hne, hnodup⟩, h, hresult⟩,
        fun ⟨⟨hne, hnodup⟩, h, hresult⟩ ↦ ⟨hnodup, ⟨hne, h⟩, hresult⟩⟩

/-- Where full names are distinct, the type entered under one is the one a search would find. -/
theorem withFullName_foldl_enter {types : List TypeDecl}
    (h : (types.map TypeDecl.fullName).Nodup) (index : Index) (name : String) :
    (types.foldl enter index).withFullName name =
      (types.find? fun t ↦ t.fullName == name).or (index.withFullName name) := by
  induction types generalizing index with
  | nil => rfl
  | cons t types ih =>
    rw [List.map_cons, List.nodup_cons] at h
    rw [List.foldl_cons, ih h.2, withFullName_enter]
    by_cases hname : t.fullName = name
    · -- the name is in the index before the others are entered, and none of them has it
      have hnone : (types.find? fun u ↦ u.fullName == name) = none :=
        List.find?_eq_none.2 fun u hu hbeq ↦
          h.1 (List.mem_map.2 ⟨u, hu, (eq_of_beq hbeq).trans hname.symm⟩)
      rw [hnone, if_pos hname, List.find?_cons_of_pos (by simpa using hname)]
      rfl
    · rw [if_neg hname, List.find?_cons_of_neg (by simpa using hname)]

/-- The types entered under a simple name. -/
def sharers (index : Index) (name : String) : List TypeDecl :=
  (index.bySimpleName.lookup name).getD []

theorem onlyNamed_eq (index : Index) (name : String) :
    index.onlyNamed name =
      match index.sharers name with
      | [only] => some only
      | _ => none := by
  rw [onlyNamed, sharers]
  cases index.bySimpleName.lookup name with
  | none => rfl
  | some sharers =>
    rw [Option.getD_some]
    match sharers with
    | [] | [_] | _ :: _ :: _ => rfl

theorem lookup_push (name other : String) (t : TypeDecl) (entries : List (String × List TypeDecl)) :
    ((push name t entries).lookup other).getD [] =
      (entries.lookup other).getD [] ++ if name = other then [t] else [] := by
  induction entries with
  | nil =>
    rw [push, List.lookup_nil, Option.getD_none, List.nil_append]
    by_cases h : name = other
    · rw [if_pos h, h, List.lookup_cons_self, Option.getD_some]
    · rw [if_neg h, List.lookup_cons, beq_false_of_ne (Ne.symm h)]
      rfl
  | cons entry entries ih =>
    obtain ⟨key, sharers⟩ := entry
    rw [push]
    by_cases hother : other = key
    · subst hother
      rw [List.lookup_cons_self, Option.getD_some]
      by_cases h : other = name
      · rw [if_pos h, if_pos h.symm, List.lookup_cons_self, Option.getD_some]
      · rw [if_neg h, if_neg (Ne.symm h), List.lookup_cons_self, Option.getD_some, List.append_nil]
    · have hbeq : (other == key) = false := beq_false_of_ne hother
      rw [List.lookup_cons, hbeq]
      by_cases h : key = name
      · rw [if_pos h, List.lookup_cons, hbeq, if_neg (h ▸ Ne.symm hother), List.append_nil]
      · rw [if_neg h, List.lookup_cons, hbeq]
        exact ih

theorem sharers_enter (index : Index) (t : TypeDecl) (name : String) :
    (index.enter t).sharers name = index.sharers name ++ if t.name = name then [t] else [] :=
  lookup_push ..

/-- The types entered under a simple name are those that have it, in the order of declaration. -/
theorem sharers_foldl_enter (types : List TypeDecl) (index : Index) (name : String) :
    (types.foldl enter index).sharers name =
      index.sharers name ++ types.filter fun t ↦ t.name == name := by
  induction types generalizing index with
  | nil => exact (List.append_nil _).symm
  | cons t types ih =>
    rw [List.foldl_cons, ih, sharers_enter, List.append_assoc]
    by_cases h : t.name = name
    · rw [if_pos h, List.filter_cons_of_pos (by simpa using h), List.singleton_append]
    · rw [if_neg h, List.filter_cons_of_neg (by simpa using h), List.nil_append]

end Index

/-! ## Catalogues -/

/-- The namespaces whose types belong to the framework, unless configured otherwise. -/
def defaultReserved : List String :=
  ["System", "Microsoft"]

/-- Every type known to the documentation, in the order of declaration. -/
structure Catalog where
  /-- The declarations. -/
  types : List TypeDecl
  /-- Namespaces whose types are never expanded. -/
  reserved : List String
  /-- No two types have the same full name. -/
  distinct : (types.map TypeDecl.fullName).Nodup
  /-- The types by their names. -/
  index : Index := types.foldl Index.enter Index.empty
  /-- The index is that of the types. -/
  indexed : index = types.foldl Index.enter Index.empty := by rfl

namespace Catalog

/-- A catalogue is determined by its types and the reserved namespaces. -/
theorem eq_of_types_eq {a b : Catalog} (htypes : a.types = b.types)
    (hreserved : a.reserved = b.reserved) : a = b := by
  obtain ⟨types, reserved, _, index, rfl⟩ := a
  obtain ⟨types', reserved', _, index', rfl⟩ := b
  obtain rfl : types = types' := htypes
  obtain rfl : reserved = reserved' := hreserved
  rfl

/-- The catalogue of a list of declarations, or the full name of the first one that repeats an
earlier full name. -/
def ofDeclarations (types : List TypeDecl) : Except String Catalog :=
  match h : Index.empty.enterAll types with
  | .error name => .error name
  | .ok index =>
    have hindex := Index.enterAll_eq_ok_iff.1 h
    .ok ⟨types, defaultReserved, hindex.1, index, hindex.2.2.symm⟩

/-- The catalogue with other reserved namespaces. -/
def withReserved (catalog : Catalog) (reserved : List String) : Catalog :=
  { catalog with reserved }

/-- The types that ask for documentation, in order. -/
def documentedTypes (catalog : Catalog) : List TypeDecl :=
  catalog.types.filter TypeDecl.isDocumented

/-! ## Looking names up -/

/-- The type a name stands for where the namespace `context` is in force.  One leading `global::`
is ignored.  The name is tried in full, then within the context, and then, if it holds no full
stop, as a simple name that only one type has. -/
def lookup (catalog : Catalog) (name context : String) : Option TypeDecl :=
  let plain := Text.unmarked name
  match catalog.index.withFullName plain with
  | some t => some t
  | none =>
    match if context.isEmpty then none
        else catalog.index.withFullName (context ++ "." ++ plain) with
    | some t => some t
    | none => if plain.toList.contains '.' then none else catalog.index.onlyNamed plain

/-- The type a name stands for where no namespace is in force. -/
def find (catalog : Catalog) (name : String) : Option TypeDecl :=
  catalog.lookup name ""

/-! ### What the index finds -/

/-- The type with the given full name. -/
def withFullName (catalog : Catalog) (name : String) : Option TypeDecl :=
  catalog.types.find? fun t ↦ t.fullName == name

/-- The type with the given simple name, if there is exactly one. -/
def onlyNamed (catalog : Catalog) (name : String) : Option TypeDecl :=
  match catalog.types.filter fun t ↦ t.name == name with
  | [only] => some only
  | _ => none

/-- **The index finds a full name** exactly if a type has it, and then that type. -/
theorem index_withFullName (catalog : Catalog) (name : String) :
    catalog.index.withFullName name = catalog.withFullName name := by
  rw [catalog.indexed, Index.withFullName_foldl_enter catalog.distinct, Index.withFullName_empty,
    Option.or_none, withFullName]

/-- **The index finds a simple name** exactly if a single type has it, and then that type. -/
theorem index_onlyNamed (catalog : Catalog) (name : String) :
    catalog.index.onlyNamed name = catalog.onlyNamed name := by
  have hempty : Index.empty.sharers name = [] := rfl
  rw [Index.onlyNamed_eq, catalog.indexed, Index.sharers_foldl_enter, hempty, List.nil_append,
    onlyNamed]

/-- The three readings of a name, one after the other. -/
theorem lookup_eq_or (catalog : Catalog) (name context : String) :
    catalog.lookup name context =
      (catalog.withFullName (Text.unmarked name)).or
        ((if context.isEmpty then none
            else catalog.withFullName (context ++ "." ++ Text.unmarked name)).or
          (if (Text.unmarked name).toList.contains '.' then none
            else catalog.onlyNamed (Text.unmarked name))) := by
  simp only [lookup, index_withFullName, index_onlyNamed]
  cases catalog.withFullName (Text.unmarked name) with
  | some t => rfl
  | none =>
    rw [Option.none_or]
    dsimp only
    cases (if context.isEmpty then none
        else catalog.withFullName (context ++ "." ++ Text.unmarked name)) with
    | some t => rfl
    | none => rfl

theorem withFullName_mem {catalog : Catalog} {name : String} {t : TypeDecl}
    (h : catalog.withFullName name = some t) : t ∈ catalog.types :=
  List.mem_of_find?_eq_some h

theorem onlyNamed_mem {catalog : Catalog} {name : String} {t : TypeDecl}
    (h : catalog.onlyNamed name = some t) : t ∈ catalog.types := by
  unfold onlyNamed at h
  split at h
  · rename_i hfilter
    cases h
    have : t ∈ catalog.types.filter fun u ↦ u.name == name := by
      rw [hfilter]
      exact List.mem_cons_self ..
    exact (List.mem_filter.1 this).1
  · cases h

/-- Looking a name up never leaves the catalogue. -/
theorem lookup_mem {catalog : Catalog} {name context : String} {t : TypeDecl}
    (h : catalog.lookup name context = some t) : t ∈ catalog.types := by
  rw [lookup_eq_or, Option.or_eq_some_iff, Option.or_eq_some_iff] at h
  simp only [Option.ite_none_left_eq_some] at h
  rcases h with h | ⟨-, ⟨-, h⟩ | ⟨-, -, h⟩⟩
  · exact withFullName_mem h
  · exact withFullName_mem h
  · exact onlyNamed_mem h

end Catalog

end ConfigDocs
