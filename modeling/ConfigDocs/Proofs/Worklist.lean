import Mathlib.Data.List.Nodup
import ConfigDocs.Pages.Layouts

/-!
# The walk through the types that a type leads to

Both layouts go through the types that a root leads to in the same order, depth first and in the
order of declaration, and enter none of them twice.  This file has that walk by itself, as a loop
without rows, names or pages, which is the form in which it can be reasoned about; that the
recursions of the two layouts are this walk is shown in `ConfigDocs.Proofs.Recursion`.

What is still to be done is a list of *tasks*, one for each property; expanding a type puts its
properties in front.  What has not been expanded yet is a list of full names.  Every step either
expands a type, which makes that list shorter, or does away with a task.

The walk yields a list of *visits*: a property that stands for itself, with the path to it, or the
expansion of a type.

A recursion over types and properties finishes one property before it turns to the next, and a loop
does not know where the tasks of a property end.  What bridges that is `Catalog.walkFrom_append`:
the walk of some tasks followed by others is the walk of the first, followed by the walk of the
others with what the first left pending.
-/

set_option autoImplicit false

namespace ConfigDocs

/-! ## Tasks and visits -/

/-- A property that is still to be visited. -/
structure Task where
  /-- Type that declares the property. -/
  owner : TypeDecl
  /-- Path to that type from the root. -/
  path : String
  /-- The property. -/
  property : Property
deriving DecidableEq

/-- A visit of the walk. -/
inductive Visit where
  /-- A property that stands for itself, with its path. -/
  | leaf (owner : TypeDecl) (property : Property) (path : String)
  /-- The expansion of a type. -/
  | expand (target : TypeDecl)
deriving DecidableEq

namespace Visit

/-- The type that is expanded, if one is. -/
def expanded? : Visit → Option TypeDecl
  | .leaf .. => none
  | .expand target => some target

end Visit

namespace Catalog

variable (catalog : Catalog)

/-- The tasks of some properties of `owner`, at a path. -/
def tasksFor (owner : TypeDecl) (path : String) (properties : List Property) : List Task :=
  properties.map fun property ↦ ⟨owner, path, property⟩

theorem tasksFor_cons (owner : TypeDecl) (path : String) (property : Property)
    (properties : List Property) :
    tasksFor owner path (property :: properties) =
      ⟨owner, path, property⟩ :: tasksFor owner path properties := rfl

/-- The tasks that expanding a type at a path comes down to. -/
def tasksOf (t : TypeDecl) (path : String) : List Task :=
  tasksFor t path (catalog.documentedProperties t)

/-! ## The walk -/

/-- The visits of the given tasks, where `pending` holds the full names of the types that have not
been expanded. -/
def walkFrom (pending : List String) (tasks : List Task) : List Visit :=
  match tasks with
  | [] => []
  | ⟨owner, path, property⟩ :: rest =>
    let here := joinPath path property.name
    match catalog.customTarget owner property with
    | none => .leaf owner property here :: walkFrom pending rest
    | some target =>
      if target.fullName ∈ pending then
        .expand target ::
          walkFrom (pending.erase target.fullName) (catalog.tasksOf target here ++ rest)
      else walkFrom pending rest
termination_by (pending.length, tasks.length)
decreasing_by
  · exact Prod.Lex.right _ (by simp)
  · rename_i hmem
    refine Prod.Lex.left _ _ ?_
    have := List.length_pos_of_mem hmem
    rw [List.length_erase_of_mem hmem]
    omega
  · exact Prod.Lex.right _ (by simp)

/-- The full names of all types but one. -/
def othersThan (t : TypeDecl) : List String :=
  (catalog.types.map TypeDecl.fullName).erase t.fullName

/-- The visits of the walk from a root. -/
def walk (root : TypeDecl) : List Visit :=
  catalog.walkFrom (catalog.othersThan root) (catalog.tasksOf root "")

/-- The types the walk from a root expands, in order, the root first. -/
def discovered (root : TypeDecl) : List TypeDecl :=
  root :: (catalog.walk root).filterMap Visit.expanded?

/-! ## One step of the walk -/

theorem walkFrom_nil (pending : List String) : catalog.walkFrom pending [] = [] := by
  rw [walkFrom]

variable {catalog}

theorem walkFrom_leaf {pending : List String} {task : Task} {rest : List Task}
    (h : catalog.customTarget task.owner task.property = none) :
    catalog.walkFrom pending (task :: rest) =
      .leaf task.owner task.property (joinPath task.path task.property.name) ::
        catalog.walkFrom pending rest := by
  rw [walkFrom, h]

theorem walkFrom_expand {pending : List String} {task : Task} {rest : List Task}
    {target : TypeDecl} (h : catalog.customTarget task.owner task.property = some target)
    (hmem : target.fullName ∈ pending) :
    catalog.walkFrom pending (task :: rest) =
      .expand target ::
        catalog.walkFrom (pending.erase target.fullName)
          (catalog.tasksOf target (joinPath task.path task.property.name) ++ rest) := by
  rw [walkFrom, h]
  simp only [if_pos hmem]

theorem walkFrom_skip {pending : List String} {task : Task} {rest : List Task}
    {target : TypeDecl} (h : catalog.customTarget task.owner task.property = some target)
    (hmem : target.fullName ∉ pending) :
    catalog.walkFrom pending (task :: rest) = catalog.walkFrom pending rest := by
  rw [walkFrom, h]
  simp only [if_neg hmem]

/-! ## Induction along the walk -/

variable (catalog) in
/-- Induction along the walk, with one case for each kind of step. -/
@[elab_as_elim]
theorem walk_induction {motive : List String → List Task → Prop}
    (nil : ∀ pending, motive pending [])
    (leaf : ∀ pending task rest, catalog.customTarget task.owner task.property = none →
      motive pending rest → motive pending (task :: rest))
    (expand : ∀ pending task rest target,
      catalog.customTarget task.owner task.property = some target → target.fullName ∈ pending →
      motive (pending.erase target.fullName)
        (catalog.tasksOf target (joinPath task.path task.property.name) ++ rest) →
      motive pending (task :: rest))
    (skip : ∀ pending task rest target,
      catalog.customTarget task.owner task.property = some target → target.fullName ∉ pending →
      motive pending rest → motive pending (task :: rest))
    (pending : List String) (tasks : List Task) : motive pending tasks := by
  induction pending, tasks using walkFrom.induct catalog with
  | case1 pending => exact nil pending
  | case2 pending owner path property rest h ih => exact leaf pending ⟨_, _, _⟩ rest h ih
  | case3 pending owner path property rest _ target h hmem ih =>
    exact expand pending ⟨_, _, _⟩ rest target h hmem ih
  | case4 pending owner path property rest target h hmem ih =>
    exact skip pending ⟨_, _, _⟩ rest target h hmem ih

/-! ## The types that are expanded -/

variable (catalog) in
/-- The types that are expanded on the way through the given tasks, in order. -/
def expansions (pending : List String) (tasks : List Task) : List TypeDecl :=
  (catalog.walkFrom pending tasks).filterMap Visit.expanded?

theorem discovered_eq (root : TypeDecl) :
    catalog.discovered root =
      root :: catalog.expansions (catalog.othersThan root) (catalog.tasksOf root "") := rfl

@[simp] theorem expansions_nil (pending : List String) : catalog.expansions pending [] = [] := by
  rw [expansions, walkFrom_nil, List.filterMap_nil]

section Steps

variable {pending : List String} {task : Task} {rest : List Task}

theorem expansions_leaf (h : catalog.customTarget task.owner task.property = none) :
    catalog.expansions pending (task :: rest) = catalog.expansions pending rest := by
  rw [expansions, walkFrom_leaf h, List.filterMap_cons_none rfl, expansions]

theorem expansions_expand {target : TypeDecl}
    (h : catalog.customTarget task.owner task.property = some target)
    (hmem : target.fullName ∈ pending) :
    catalog.expansions pending (task :: rest) =
      target :: catalog.expansions (pending.erase target.fullName)
        (catalog.tasksOf target (joinPath task.path task.property.name) ++ rest) := by
  have hhead : (Visit.expand target).expanded? = some target := rfl
  rw [expansions, walkFrom_expand h hmem, List.filterMap_cons_some hhead, expansions]

theorem expansions_skip {target : TypeDecl}
    (h : catalog.customTarget task.owner task.property = some target)
    (hmem : target.fullName ∉ pending) :
    catalog.expansions pending (task :: rest) = catalog.expansions pending rest := by
  rw [expansions, walkFrom_skip h hmem, expansions]

end Steps

/-! ## Taking the walk apart -/

variable (catalog) in
/-- The full names that are still pending after the given tasks. -/
def pendingAfter (pending : List String) (tasks : List Task) : List String :=
  pending.diff ((catalog.expansions pending tasks).map TypeDecl.fullName)

theorem pendingAfter_nil (pending : List String) : catalog.pendingAfter pending [] = pending := by
  rw [pendingAfter, expansions_nil, List.map_nil, List.diff_nil]

theorem pendingAfter_nodup {pending : List String} (h : pending.Nodup) (tasks : List Task) :
    (catalog.pendingAfter pending tasks).Nodup :=
  h.diff

theorem length_pendingAfter_le (pending : List String) (tasks : List Task) :
    (catalog.pendingAfter pending tasks).length ≤ pending.length :=
  (List.diff_sublist _ _).length_le

section Steps

variable {pending : List String} {task : Task} {rest : List Task}

theorem pendingAfter_leaf (h : catalog.customTarget task.owner task.property = none) :
    catalog.pendingAfter pending (task :: rest) = catalog.pendingAfter pending rest := by
  rw [pendingAfter, expansions_leaf h, pendingAfter]

theorem pendingAfter_expand {target : TypeDecl}
    (h : catalog.customTarget task.owner task.property = some target)
    (hmem : target.fullName ∈ pending) :
    catalog.pendingAfter pending (task :: rest) =
      catalog.pendingAfter (pending.erase target.fullName)
        (catalog.tasksOf target (joinPath task.path task.property.name) ++ rest) := by
  rw [pendingAfter, expansions_expand h hmem, List.map_cons, List.diff_cons, pendingAfter]

theorem pendingAfter_skip {target : TypeDecl}
    (h : catalog.customTarget task.owner task.property = some target)
    (hmem : target.fullName ∉ pending) :
    catalog.pendingAfter pending (task :: rest) = catalog.pendingAfter pending rest := by
  rw [pendingAfter, expansions_skip h hmem, pendingAfter]

end Steps

/-- **The walk of tasks and more tasks** is the walk of the first, and then the walk of the others
with what is still pending. -/
theorem walkFrom_append (pending : List String) (tasks more : List Task) :
    catalog.walkFrom pending (tasks ++ more) =
      catalog.walkFrom pending tasks ++
        catalog.walkFrom (catalog.pendingAfter pending tasks) more := by
  induction pending, tasks using walk_induction catalog with
  | nil pending => rw [pendingAfter_nil, walkFrom_nil, List.nil_append, List.nil_append]
  | leaf pending task rest hnone ih =>
    rw [List.cons_append, walkFrom_leaf hnone, walkFrom_leaf hnone, ih, pendingAfter_leaf hnone,
      List.cons_append]
  | expand pending task rest target hsome hmem ih =>
    rw [List.cons_append, walkFrom_expand hsome hmem, walkFrom_expand hsome hmem,
      ← List.append_assoc, ih, pendingAfter_expand hsome hmem, List.cons_append]
  | skip pending task rest target hsome hmem ih =>
    rw [List.cons_append, walkFrom_skip hsome hmem, walkFrom_skip hsome hmem, ih,
      pendingAfter_skip hsome hmem]

theorem expansions_append (pending : List String) (tasks more : List Task) :
    catalog.expansions pending (tasks ++ more) =
      catalog.expansions pending tasks ++
        catalog.expansions (catalog.pendingAfter pending tasks) more := by
  rw [expansions, walkFrom_append, List.filterMap_append, expansions, expansions]

theorem pendingAfter_append (pending : List String) (tasks more : List Task) :
    catalog.pendingAfter pending (tasks ++ more) =
      catalog.pendingAfter (catalog.pendingAfter pending tasks) more := by
  rw [pendingAfter, expansions_append, List.map_append, List.diff_append]
  rfl

end Catalog

end ConfigDocs
