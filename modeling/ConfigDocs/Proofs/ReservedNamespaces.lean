import ConfigDocs.Proofs.Walk

/-!
# Reserved namespaces

Types within a reserved namespace are never expanded, and what lies within a namespace is a matter
of its segments: `System.IO` lies within `System`, and `Systematic` does not.  It is found out from
the characters alone: the namespace is the reserved one, or it begins with the reserved one and a
full stop follows.  That comes to the same for any two texts, however many full stops are in them
and wherever these are.  A full stop always cuts a text into the pieces of what stands before it and
the pieces of what stands behind it (`Text.segments_append`), and the pieces tell the text
(`Text.intercalate_segments`).

So a namespace is reserved if the segments of a reserved one are the first of its own
(`Catalog.isReserved_iff`), and the more namespaces are reserved the fewer types are expanded
(`Catalog.isCustom_withReserved`).
-/

set_option autoImplicit false

namespace ConfigDocs

namespace Text

/-- **The pieces of a text come first among those of another one** if this is the same text, or goes
on with a separator. -/
theorem segments_isPrefix_iff {sep : Char} {s t : List Char} :
    segments sep s <+: segments sep t ↔ t = s ∨ ∃ rest, t = s ++ sep :: rest := by
  constructor
  · rintro ⟨more, hmore⟩
    have ht := intercalate_segments sep t
    rw [← hmore] at ht
    cases more with
    | nil =>
      rw [List.append_nil, intercalate_segments] at ht
      exact .inl ht.symm
    | cons piece more =>
      rw [intercalate_append (segments_ne_nil sep s) (List.cons_ne_nil piece more),
        intercalate_segments] at ht
      exact .inr ⟨_, ht.symm⟩
  · rintro (rfl | ⟨rest, rfl⟩)
    · exact List.prefix_rfl
    · rw [segments_append]
      exact List.prefix_append ..

end Text

namespace Catalog

open Text (segments)

variable {catalog : Catalog}

/-! ## What lies within a namespace -/

/-- **A namespace is reserved** if its first segments are those of a reserved one. -/
theorem isReserved_iff {space : String} :
    catalog.isReserved space = true ↔
      ∃ reserved ∈ catalog.reserved,
        segments '.' reserved.toList <+: segments '.' space.toList := by
  rw [isReserved, List.any_eq_true]
  refine exists_congr fun reserved ↦ and_congr_right fun _ ↦ ?_
  rw [Bool.or_eq_true, beq_iff_eq, Text.segments_isPrefix_iff, String.toList_inj]
  refine or_congr_right ?_
  split
  · rename_i more hmore
    exact iff_of_true rfl ⟨more, (List.isPrefixOf?_eq_some_iff_append_eq.1 hmore).symm⟩
  · rename_i hother
    refine iff_of_false Bool.false_ne_true ?_
    rintro ⟨more, hmore⟩
    exact hother more (List.isPrefixOf?_eq_some_iff_append_eq.2 hmore.symm)

/-! ## What is expanded -/

theorem isCustom_iff {t : TypeDecl} :
    catalog.isCustom t = true ↔
      (t.kind = .class ∨ t.kind = .record ∨ t.kind = .struct) ∧
        ∀ reserved ∈ catalog.reserved,
          ¬segments '.' reserved.toList <+: segments '.' t.space.toList := by
  rw [isCustom, Bool.and_eq_true, Bool.or_eq_true, Bool.or_eq_true, beq_iff_eq, beq_iff_eq,
    beq_iff_eq, or_assoc, Bool.not_eq_true', ← Bool.not_eq_true, isReserved_iff]
  simp only [not_exists, not_and]

theorem customTarget_eq_some_iff {owner target : TypeDecl} {property : Property} :
    catalog.customTarget owner property = some target ↔
      catalog.effectiveTarget owner property = .declared target ∧
        catalog.isCustom target = true := by
  unfold customTarget
  split
  · rename_i t ht
    rw [Option.ite_none_right_eq_some, Option.some_inj, ht, Resolved.declared.injEq]
    constructor
    · rintro ⟨hcustom, rfl⟩
      exact ⟨rfl, hcustom⟩
    · rintro ⟨rfl, hcustom⟩
      exact ⟨hcustom, rfl⟩
  · rename_i hnone
    exact iff_of_false (fun h ↦ nomatch h) fun h ↦ hnone target h.1

/-- What a property refers to has nothing to do with what is reserved. -/
theorem effectiveTarget_withReserved (catalog : Catalog) (reserved : List String)
    (owner : TypeDecl) (property : Property) :
    (catalog.withReserved reserved).effectiveTarget owner property =
      catalog.effectiveTarget owner property :=
  rfl

/-- **Reserved namespaces match by whole segments.**  A type is expanded if it is a class, record or
struct and its first segments are those of no reserved namespace; so where more namespaces are
reserved, no property expands into a type that it did not expand into before. -/
theorem isCustom_withReserved (catalog : Catalog) (reserved : List String) :
    (∀ t : TypeDecl, (catalog.withReserved reserved).isCustom t = true ↔
      (t.kind = .class ∨ t.kind = .record ∨ t.kind = .struct) ∧
        ∀ r ∈ reserved, ¬segments '.' r.toList <+: segments '.' t.space.toList) ∧
    ∀ wider : List String, reserved ⊆ wider → ∀ owner property target,
      (catalog.withReserved wider).customTarget owner property = some target →
        (catalog.withReserved reserved).customTarget owner property = some target := by
  refine ⟨fun t ↦ isCustom_iff, fun wider hwider owner property target h ↦ ?_⟩
  obtain ⟨htarget, hcustom⟩ := customTarget_eq_some_iff.1 h
  obtain ⟨hkind, hspace⟩ := isCustom_iff.1 hcustom
  refine customTarget_eq_some_iff.2 ⟨?_, isCustom_iff.2 ⟨hkind, fun r hr ↦ hspace r (hwider hr)⟩⟩
  rwa [effectiveTarget_withReserved] at htarget ⊢

/-- A class in the given namespace. -/
def classIn (space name : String) : TypeDecl :=
  { plainClass name [] with space }

/-- A type that refers to one within `System` and to one whose namespace only begins with these
letters. -/
def app : TypeDecl :=
  plainClass "App"
    [plainProperty "Log" "System.IO.File", plainProperty "Order" "Systematic.Sorter"]

/-- The catalogue of these three types. -/
def lookalikes : Catalog where
  types := [app, classIn "System.IO" "File", classIn "Systematic" "Sorter"]
  reserved := []
  distinct := by decide

/-- Where `System` is reserved, the type within it is not expanded and the other one is, by the
property that expands into it where `Microsoft` is reserved as well. -/
theorem isCustom_withReserved_lookalikes :
    (lookalikes.withReserved ["System"]).isCustom (classIn "Systematic" "Sorter") = true ∧
      ¬(lookalikes.withReserved ["System"]).isCustom (classIn "System.IO" "File") = true ∧
      ["System"] ⊆ ["Microsoft", "System"] ∧
      (lookalikes.withReserved ["System"]).customTarget app
        (plainProperty "Order" "Systematic.Sorter") = some (classIn "Systematic" "Sorter") := by
  obtain ⟨hcustom, hshrinks⟩ := isCustom_withReserved lookalikes ["System"]
  have hwider : ["System"] ⊆ ["Microsoft", "System"] := by decide
  refine ⟨(hcustom _).2 (by decide), fun h ↦ ?_, hwider, hshrinks _ hwider _ _ _ (by decide)⟩
  exact ((hcustom _).1 h).2 "System" (by decide) (by decide)

end Catalog

end ConfigDocs
