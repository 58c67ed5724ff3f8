import ConfigDocs.Catalog.Basic

/-!
# What a declared type refers to

The declared type of a property is a text about types; this file finds out what it means in a
catalogue.  Nullable wrappers never matter to the meaning.  For the classification of a property
one level of array or sequence does not matter either: what counts is the *effective type*, the
type of an element.  Only one level is taken away, so a sequence of sequences is classified as the
inner sequence.

From the effective type follow the two decisions that shape the documentation: the *custom target*
of a property, the type its place in the table expands into, and whether the property is
documented at all.
-/

set_option autoImplicit false

namespace ConfigDocs

/-- What a declared type refers to. -/
inductive Resolved where
  /-- A built-in type. -/
  | builtin (b : Builtin)
  /-- A type of the catalogue. -/
  | declared (t : TypeDecl)
  /-- Anything else: an array, a framework type the catalogue lacks, an unknown name. -/
  | unresolved
deriving DecidableEq

namespace Catalog

variable (catalog : Catalog)

/-- What a reference means where the namespace `context` is in force. -/
def resolve (t : TypeRef) (context : String) : Resolved :=
  match t.stripNullable with
  | .named name args =>
    match (TypeRef.named name args).builtin? with
    | some b => .builtin b
    | none =>
      match catalog.lookup name context with
      | some decl => .declared decl
      | none => .unresolved
  | _ => .unresolved

/-- Whether a generic name enumerates its argument: as the catalogue has it, or by its name alone
if the catalogue does not know it. -/
def isSequence (name context : String) : Bool :=
  match catalog.lookup name context with
  | some decl => decl.sequence
  | none => TypeRef.isSequenceName name

/-- The type by which a property is classified: the element of an array or of a sequence with one
argument, and the declared type itself otherwise. -/
def effectiveType (t : TypeRef) (context : String) : TypeRef :=
  match t.stripNullable with
  | .array element => element.stripNullable
  | .named name [arg] =>
    if catalog.isSequence name context then arg.stripNullable else .named name [arg]
  | declared => declared

/-! ## Types that are expanded -/

/-- Whether a namespace is one of the reserved ones or lies within one of them. -/
def isReserved (space : String) : Bool :=
  catalog.reserved.any fun reserved ↦
    space == reserved ||
      match reserved.toList.isPrefixOf? space.toList with
      | some ('.' :: _) => true
      | _ => false

/-- Whether a type has properties worth expanding: a class, record or struct outside the reserved
namespaces. -/
def isCustom (t : TypeDecl) : Bool :=
  (t.kind == .class || t.kind == .record || t.kind == .struct) && !catalog.isReserved t.space

/-- What the effective type of a property of `owner` refers to. -/
def effectiveTarget (owner : TypeDecl) (property : Property) : Resolved :=
  catalog.resolve (catalog.effectiveType property.type owner.space) owner.space

/-- The type a property of `owner` expands into. -/
def customTarget (owner : TypeDecl) (property : Property) : Option TypeDecl :=
  match catalog.effectiveTarget owner property with
  | .declared t => if catalog.isCustom t then some t else none
  | _ => none

/-! ## Properties that are documented -/

/-- Whether the effective type of a property is kept out of the documentation. -/
def targetsExcluded (owner : TypeDecl) (property : Property) : Bool :=
  match catalog.effectiveTarget owner property with
  | .declared t => t.isExcluded
  | _ => false

/-- Whether a property of `owner` is documented: it is public, and neither it nor its effective
type is excluded. -/
def isDocumentedProperty (owner : TypeDecl) (property : Property) : Bool :=
  property.accessibility == .public && !property.isExcluded &&
    !catalog.targetsExcluded owner property

/-- The documented properties of a type in order. -/
def documentedProperties (owner : TypeDecl) : List Property :=
  owner.properties.filter (catalog.isDocumentedProperty owner)

/-! ## Staying within the catalogue -/

variable {catalog}

theorem resolve_mem {t : TypeRef} {context : String} {decl : TypeDecl}
    (h : catalog.resolve t context = .declared decl) : decl ∈ catalog.types := by
  unfold resolve at h
  split at h
  · split at h
    · cases h
    · split at h
      · rename_i found hfound
        cases h
        exact lookup_mem hfound
      · cases h
  · cases h

theorem customTarget_mem {owner target : TypeDecl} {property : Property}
    (h : catalog.customTarget owner property = some target) : target ∈ catalog.types := by
  unfold customTarget at h
  split at h
  · rename_i decl hdecl
    split at h
    · cases h
      exact resolve_mem hdecl
    · cases h
  · cases h

end Catalog

end ConfigDocs
