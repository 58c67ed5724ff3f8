import Mathlib.Data.List.Induction
import ConfigDocs.Proofs.InlineTable
import ConfigDocs.Text.Segments

/-!
# The paths of the inline table are keys

A row of the inline table is found by the path in its first cell.  That works if no two rows show
the same path, and they do not if the names of properties are what names usually are: distinct
within a type, not empty, and without the separator in them (`Catalog.WellNamed`).  The main
statement is `Catalog.inlinePage_distinctParameters`.

There are three steps to it, each of which needs one part of that condition.

* A path says which names it is joined from, because it can be cut at the separators again
  (`joinNames_inj`).
* The names say which way they lead: a type has at most one property of a name, and a property has
  at most one target (`Catalog.Route.unique`).  So a path belongs to one property of one type.
* The walk comes to every property of a type once (`Catalog.nodup_leaves`).

Types that refer to each other in circles make no difference.  There are infinitely many paths
then, but the walk takes one of them to each type.
-/

set_option autoImplicit false

namespace ConfigDocs

/-! ## Names and paths -/

/-- A name that is found again in a path: it is not empty, and the separator is not in it. -/
structure IsPathName (name : String) : Prop where
  /-- It is not empty. -/
  nonempty : name ≠ ""
  /-- The separator is not in it. -/
  unseparated : ':' ∉ name.toList

theorem joinNames_ne_empty {names : List String} (hne : names ≠ [])
    (h : ∀ name ∈ names, IsPathName name) : joinNames names ≠ "" := by
  obtain ⟨init, last, rfl⟩ := List.eq_nil_or_concat names |>.resolve_left hne
  have hlast : last ≠ "" := (h last (by simp)).nonempty
  rw [List.concat_eq_append, joinNames_append]
  by_cases hinit : joinNames init = ""
  · rwa [hinit, joinPath_empty]
  · intro hjoin
    have hlist := congrArg String.toList hjoin
    rw [toList_joinPath hinit] at hlist
    simp at hlist

/-- **A path is cut into the names it is joined from.** -/
theorem segments_joinNames {names : List String} (hne : names ≠ [])
    (h : ∀ name ∈ names, IsPathName name) :
    Text.segments ':' (joinNames names).toList = names.map String.toList := by
  induction names using List.reverseRecOn with
  | nil => exact absurd rfl hne
  | append_singleton init last ih =>
    rw [List.forall_mem_append, List.forall_mem_singleton] at h
    have hlast : Text.segments ':' last.toList = [last.toList] :=
      Text.segments_of_notMem h.2.unseparated
    rw [joinNames_append, List.map_append, List.map_singleton]
    by_cases hinit : init = []
    · subst hinit
      exact hlast
    · rw [toList_joinPath (joinNames_ne_empty hinit h.1), Text.segments_append, ih hinit h.1, hlast]

/-- Different names are joined to different paths. -/
theorem joinNames_inj {names others : List String} (hne : names ≠ []) (hne' : others ≠ [])
    (h : ∀ name ∈ names, IsPathName name) (h' : ∀ name ∈ others, IsPathName name)
    (heq : joinNames names = joinNames others) : names = others := by
  have hpieces : names.map String.toList = others.map String.toList := by
    rw [← segments_joinNames hne h, ← segments_joinNames hne' h', heq]
  exact List.map_injective_iff.2 (fun _ _ ↦ String.toList_inj.1) hpieces

namespace Catalog

variable {catalog : Catalog}

/-! ## Names and types -/

variable (catalog) in
/-- The documented properties of a type are told apart by their names, in paths as well. -/
structure WellNamed (t : TypeDecl) : Prop where
  /-- No two of them have the same name. -/
  distinct : ((catalog.documentedProperties t).map Property.name).Nodup
  /-- Their names are found again in paths. -/
  pathNames : ∀ property ∈ catalog.documentedProperties t, IsPathName property.name

theorem WellNamed.eq_of_name_eq {t : TypeDecl} (h : catalog.WellNamed t) {p q : Property}
    (hp : p ∈ catalog.documentedProperties t) (hq : q ∈ catalog.documentedProperties t)
    (hname : p.name = q.name) : p = q :=
  List.inj_on_of_nodup_map h.distinct hp hq hname

theorem WellNamed.nodup_standing {t : TypeDecl} (h : catalog.WellNamed t) :
    (catalog.standing t).Nodup :=
  h.distinct.of_map.filter _

section Routes

variable {root : TypeDecl} (h : ∀ t, catalog.Reachable root t → catalog.WellNamed t)

include h

theorem Route.pathNames {names : List String} {t : TypeDecl} (hroute : catalog.Route root names t) :
    ∀ name ∈ names, IsPathName name := by
  induction hroute with
  | start => simp
  | step hroute hproperty _ ih =>
    rw [List.forall_mem_append, List.forall_mem_singleton]
    exact ⟨ih, (h _ hroute.reachable).pathNames _ hproperty⟩

/-- **Names lead to one type only.** -/
theorem Route.unique {names : List String} {t u : TypeDecl} (ht : catalog.Route root names t)
    (hu : catalog.Route root names u) : t = u := by
  induction ht generalizing u with
  | start =>
    generalize hnames : ([] : List String) = names at hu
    cases hu with
    | start => rfl
    | step => simp at hnames
  | @step names t _ property ht hproperty htarget ih =>
    generalize hnames : names ++ [property.name] = others at hu
    cases hu with
    | start => simp at hnames
    | step hu hproperty' htarget' =>
      obtain ⟨rfl, hname⟩ := List.append_inj' hnames rfl
      obtain rfl := ih hu
      have hwell := h t ht.reachable
      obtain rfl := hwell.eq_of_name_eq hproperty hproperty' (List.singleton_inj.1 hname)
      exact Option.some.inj (htarget.symm.trans htarget')

/-- **A path belongs to one leaf.** -/
theorem leaf_eq_of_path_eq {leaf other : Leaf} (hleaf : leaf ∈ catalog.leaves root)
    (hother : other ∈ catalog.leaves root) (hpath : leaf.path = other.path) : leaf = other := by
  obtain ⟨names, hroute, hstanding, hjoin⟩ := endsRoute_of_mem_leaves hleaf
  obtain ⟨names', hroute', hstanding', hjoin'⟩ := endsRoute_of_mem_leaves hother
  have hproperty := List.mem_of_mem_filter hstanding
  have hproperty' := List.mem_of_mem_filter hstanding'
  have hwell := h _ hroute.reachable
  have hwell' := h _ hroute'.reachable
  have hnames : ∀ name ∈ names ++ [leaf.property.name], IsPathName name := by
    rw [List.forall_mem_append, List.forall_mem_singleton]
    exact ⟨hroute.pathNames h, hwell.pathNames _ hproperty⟩
  have hnames' : ∀ name ∈ names' ++ [other.property.name], IsPathName name := by
    rw [List.forall_mem_append, List.forall_mem_singleton]
    exact ⟨hroute'.pathNames h, hwell'.pathNames _ hproperty'⟩
  have heq : names ++ [leaf.property.name] = names' ++ [other.property.name] :=
    joinNames_inj (by simp) (by simp) hnames hnames' (by rw [← hjoin, ← hjoin', hpath])
  obtain ⟨rfl, hname⟩ := List.append_inj' heq rfl
  have howner := hroute.unique h hroute'
  rw [← howner] at hproperty'
  have hsame := hwell.eq_of_name_eq hproperty hproperty' (List.singleton_inj.1 hname)
  cases leaf
  cases other
  rw [Leaf.mk.injEq]
  exact ⟨howner, hsame, hpath⟩

/-! ## Keys -/

/-- The walk comes to no leaf twice. -/
theorem nodup_leaves (hroot : root ∈ catalog.types) : (catalog.leaves root).Nodup := by
  rw [List.nodup_iff_sublist]
  intro leaf htwice
  have hleaf : leaf ∈ catalog.leaves root := htwice.subset (List.mem_cons_self ..)
  have htable := completeTable_inlineRows hroot
  have hreach := (htable.within leaf hleaf).1
  -- a leaf that occurs twice would also occur twice among those of its owner
  have hsame := htwice.filter fun other ↦ other.owner = leaf.owner
  have hnodup := (h _ hreach).nodup_standing
  rw [← htable.complete _ hreach] at hnodup
  have hpair := hnodup.of_map.sublist hsame
  simp at hpair

theorem nodup_paths (hroot : root ∈ catalog.types) :
    ((catalog.leaves root).map Leaf.path).Nodup :=
  (nodup_leaves h hroot).map_on fun _ hleaf _ hother ↦ leaf_eq_of_path_eq h hleaf hother

end Routes

/-- **No two rows of the inline table have the same parameter.**  If the documented properties of
every type within reach are told apart by their names, then the first cells of the table are texts
and pairwise distinct, whatever the settings. -/
theorem inlinePage_distinctParameters {root : TypeDecl} (hroot : root ∈ catalog.types)
    (h : ∀ t, catalog.Reachable root t → catalog.WellNamed t) (options : PassOptions)
    (ledger : Ledger) :
    ∃ page, catalog.pages root { options with layout := .inline } ledger = ([page], ledger) ∧
      ∃ parameters : List String, parameters.Nodup ∧
        page.document.table.rows.map List.head? =
          parameters.map fun parameter ↦ some (.text parameter) := by
  refine ⟨_, rfl, (catalog.leaves root).map Leaf.path, nodup_paths h hroot, ?_⟩
  show (catalog.inlineRows root).map List.head? = _
  rw [inlineRows_eq_map, List.map_map, List.map_map]
  rfl

/-- A server and its pool refer to each other, so there are paths of any length from the server to
its port. -/
theorem inlinePage_distinctParameters_circle :
    server ∈ circle.types ∧ (∀ t, circle.Reachable server t → circle.WellNamed t) ∧
      ∃ page, circle.pages server ⟨.html, "docs", .inline, true⟩ .empty = ([page], .empty) ∧
        ∃ parameters : List String, parameters.Nodup ∧
          page.document.table.rows.map List.head? =
            parameters.map fun parameter ↦ some (.text parameter) := by
  have hroot : server ∈ circle.types := List.mem_cons_self ..
  have hnames : ∀ t, circle.Reachable server t → circle.WellNamed t := by
    intro t ht
    have hmem := mem_types_of_mem_discovered hroot ((mem_discovered_iff hroot).2 ht)
    have hdistinct : ∀ t ∈ circle.types,
        ((circle.documentedProperties t).map Property.name).Nodup := by decide
    have hpath : ∀ t ∈ circle.types, ∀ property ∈ circle.documentedProperties t,
        property.name ≠ "" ∧ ':' ∉ property.name.toList := by decide
    exact ⟨hdistinct t hmem, fun property hproperty ↦
      ⟨(hpath t hmem property hproperty).1, (hpath t hmem property hproperty).2⟩⟩
  exact ⟨hroot, hnames,
    inlinePage_distinctParameters hroot hnames ⟨.html, "docs", .inline, true⟩ .empty⟩

end Catalog

end ConfigDocs
