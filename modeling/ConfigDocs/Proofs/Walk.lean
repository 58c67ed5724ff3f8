import Mathlib.Logic.Relation
import ConfigDocs.Proofs.Worklist

/-!
# What the walk finds

The types of a catalogue are the vertices of a graph: there is an arrow from a type to every custom
target of its documented properties.  `Catalog.walkFrom` is a depth-first search of that graph, and
this file says what it finds.

* **Where it gets to.**  `Catalog.mem_discovered_iff`: the types the walk from a root expands are
  exactly the types that can be reached from the root, and `Catalog.nodup_discovered` says that
  each of them is expanded once.
* **What it brings back.**  `Catalog.standing_of_leaves`: for every type that is expanded, the
  visits to its own properties are exactly the ones that stand for themselves, in the order of
  declaration.
* **Which way it went.**  `Catalog.forall_mem_walkFrom` is the invariant rule of the walk: whatever
  holds of the first tasks and is handed on by an expansion holds wherever the walk comes.
  `Catalog.Route` is the invariant used here: the path of a task spells out a chain of properties
  from the root.

The search keeps no set of types that were visited but a list of full names that are still pending,
so most statements are about a name being in that list.  In a catalogue a name is as good as a type
(`Catalog.eq_of_fullName_eq`).
-/

set_option autoImplicit false

namespace ConfigDocs

/-- The path that names lead along, joined from the first to the last. -/
def joinNames (names : List String) : String :=
  names.foldl joinPath ""

theorem joinNames_append (names : List String) (name : String) :
    joinNames (names ++ [name]) = joinPath (joinNames names) name := by
  rw [joinNames, List.foldl_append, List.foldl_cons, List.foldl_nil, joinNames]

/-- The property of `t` that a visit is to, if it is to one that stands for itself. -/
def Visit.leafOf? (t : TypeDecl) : Visit → Option Property
  | .leaf owner property _ => if owner = t then some property else none
  | .expand _ => none

theorem Visit.leafOf?_self (t : TypeDecl) (property : Property) (path : String) :
    (Visit.leaf t property path).leafOf? t = some property :=
  if_pos rfl

theorem Visit.leafOf?_of_ne {t owner : TypeDecl} (h : owner ≠ t) (property : Property)
    (path : String) : (Visit.leaf owner property path).leafOf? t = none :=
  if_neg h

namespace Catalog

variable (catalog : Catalog)

/-! ## The graph of types -/

/-- Some documented property of `t` expands into `u`. -/
def Leads (t u : TypeDecl) : Prop :=
  ∃ property ∈ catalog.documentedProperties t, catalog.customTarget t property = some u

/-- The type `u` can be reached from `t`, in any number of expansions. -/
def Reachable (t u : TypeDecl) : Prop :=
  Relation.ReflTransGen catalog.Leads t u

/-- `Route root names t` says that properties with these names, each documented in the type the one
before it expands into, lead from `root` to `t`. -/
inductive Route (root : TypeDecl) : List String → TypeDecl → Prop
  | start : Route root [] root
  | step {names : List String} {t u : TypeDecl} {property : Property} (h : Route root names t)
      (hproperty : property ∈ catalog.documentedProperties t)
      (htarget : catalog.customTarget t property = some u) :
      Route root (names ++ [property.name]) u

/-- The documented properties of a type that stand for themselves, in order. -/
def standing (t : TypeDecl) : List Property :=
  (catalog.documentedProperties t).filter fun property ↦ catalog.customTarget t property = none

variable {catalog}

/-- In a catalogue a full name belongs to one type. -/
theorem eq_of_fullName_eq {t u : TypeDecl} (ht : t ∈ catalog.types) (hu : u ∈ catalog.types)
    (h : t.fullName = u.fullName) : t = u :=
  List.inj_on_of_nodup_map catalog.distinct ht hu h

theorem fullName_of_withFullName {name : String} {t : TypeDecl}
    (h : catalog.withFullName name = some t) : t.fullName = name := by
  have hname := List.find?_some h
  exact eq_of_beq hname

/-- A full name finds the type it belongs to. -/
theorem withFullName_eq_some_iff {name : String} {t : TypeDecl} :
    catalog.withFullName name = some t ↔ t ∈ catalog.types ∧ t.fullName = name := by
  constructor
  · intro h
    exact ⟨withFullName_mem h, fullName_of_withFullName h⟩
  · rintro ⟨ht, rfl⟩
    obtain ⟨u, hu⟩ : ∃ u, catalog.withFullName t.fullName = some u :=
      Option.isSome_iff_exists.1 (List.find?_isSome.2 ⟨t, ht, beq_self_eq_true _⟩)
    rw [hu, eq_of_fullName_eq (withFullName_mem hu) ht (fullName_of_withFullName hu)]

theorem Leads.mem_types {t u : TypeDecl} (h : catalog.Leads t u) : u ∈ catalog.types := by
  obtain ⟨_, _, htarget⟩ := h
  exact customTarget_mem htarget

theorem Route.reachable {root t : TypeDecl} {names : List String}
    (h : catalog.Route root names t) : catalog.Reachable root t := by
  induction h with
  | start => exact Relation.ReflTransGen.refl
  | step _ hproperty htarget ih => exact ih.tail ⟨_, hproperty, htarget⟩

theorem mem_tasksOf {t : TypeDecl} {path : String} {task : Task} :
    task ∈ catalog.tasksOf t path ↔
      task.owner = t ∧ task.path = path ∧ task.property ∈ catalog.documentedProperties t := by
  obtain ⟨owner, taskPath, property⟩ := task
  simp only [tasksOf, tasksFor, List.mem_map, Task.mk.injEq]
  constructor
  · rintro ⟨p, hp, rfl, rfl, rfl⟩
    exact ⟨rfl, rfl, hp⟩
  · rintro ⟨rfl, rfl, hp⟩
    exact ⟨property, hp, rfl, rfl, rfl⟩

/-! ## What is handed on along the walk -/

/-- **The invariant rule of the walk.**  If `P` holds of the first tasks, and an expansion hands it
on to the tasks it puts in front, then everything the walk visits satisfies what `P` implies for
it. -/
theorem forall_mem_walkFrom {P : Task → Prop} {Q : Visit → Prop}
    (leaf : ∀ task, P task → catalog.customTarget task.owner task.property = none →
      Q (.leaf task.owner task.property (joinPath task.path task.property.name)))
    (expand : ∀ task target, P task →
      catalog.customTarget task.owner task.property = some target → Q (.expand target))
    (handOn : ∀ task target, P task →
      catalog.customTarget task.owner task.property = some target →
      ∀ new ∈ catalog.tasksOf target (joinPath task.path task.property.name), P new)
    {pending : List String} {tasks : List Task} (h : ∀ task ∈ tasks, P task) :
    ∀ visit ∈ catalog.walkFrom pending tasks, Q visit := by
  induction pending, tasks using walk_induction catalog with
  | nil pending => simp [walkFrom_nil]
  | leaf pending task rest hnone ih =>
    rw [walkFrom_leaf hnone, List.forall_mem_cons]
    rw [List.forall_mem_cons] at h
    exact ⟨leaf task h.1 hnone, ih h.2⟩
  | expand pending task rest target hsome hmem ih =>
    rw [walkFrom_expand hsome hmem, List.forall_mem_cons]
    rw [List.forall_mem_cons] at h
    refine ⟨expand task target h.1 hsome, ih ?_⟩
    rw [List.forall_mem_append]
    exact ⟨handOn task target h.1 hsome, h.2⟩
  | skip pending task rest target hsome hmem ih =>
    rw [walkFrom_skip hsome hmem]
    exact ih (List.forall_mem_cons.1 h).2

/-! ## The types that are expanded -/

/-- Only what is pending is expanded. -/
theorem fullName_mem_of_mem_expansions {pending : List String} {tasks : List Task} {t : TypeDecl}
    (ht : t ∈ catalog.expansions pending tasks) : t.fullName ∈ pending := by
  induction pending, tasks using walk_induction catalog with
  | nil pending => simp at ht
  | leaf pending task rest hnone ih =>
    rw [expansions_leaf hnone] at ht
    exact ih ht
  | expand pending task rest target hsome hmem ih =>
    rw [expansions_expand hsome hmem] at ht
    rcases List.mem_cons.1 ht with rfl | ht
    · exact hmem
    · exact List.mem_of_mem_erase (ih ht)
  | skip pending task rest target hsome hmem ih =>
    rw [expansions_skip hsome hmem] at ht
    exact ih ht

/-- No type is expanded twice. -/
theorem nodup_expansions {pending : List String} (tasks : List Task) (h : pending.Nodup) :
    ((catalog.expansions pending tasks).map TypeDecl.fullName).Nodup := by
  induction pending, tasks using walk_induction catalog with
  | nil pending => simp
  | leaf pending task rest hnone ih =>
    rw [expansions_leaf hnone]
    exact ih h
  | expand pending task rest target hsome hmem ih =>
    rw [expansions_expand hsome hmem, List.map_cons, List.nodup_cons]
    refine ⟨fun hin ↦ ?_, ih (h.erase _)⟩
    obtain ⟨t, ht, hname⟩ := List.mem_map.1 hin
    have hpending := fullName_mem_of_mem_expansions ht
    rw [hname] at hpending
    exact h.not_mem_erase hpending
  | skip pending task rest target hsome hmem ih =>
    rw [expansions_skip hsome hmem]
    exact ih h

theorem expansions_subset_types {pending : List String} {tasks : List Task} {t : TypeDecl}
    (ht : t ∈ catalog.expansions pending tasks) : t ∈ catalog.types := by
  obtain ⟨visit, hvisit, hexpanded⟩ := List.mem_filterMap.1 ht
  -- the rule is used with no invariant: an expansion is always into a custom target
  have h : ∀ u, visit.expanded? = some u → u ∈ catalog.types :=
    forall_mem_walkFrom (P := fun _ ↦ True)
      (Q := fun visit ↦ ∀ u, visit.expanded? = some u → u ∈ catalog.types)
      (fun _ _ _ _ hu ↦ by cases hu)
      (fun _ _ _ hsome _ hu ↦ by cases hu; exact customTarget_mem hsome)
      (fun _ _ _ _ _ _ ↦ trivial) (fun _ _ ↦ trivial) visit hvisit
  exact h t hexpanded

/-! ### Nothing is missed -/

/-- What a task expands into is expanded on the way, if it was pending. -/
theorem mem_expansions_of_task {pending : List String} {tasks : List Task} {task : Task}
    {u : TypeDecl} (htask : task ∈ tasks)
    (hu : catalog.customTarget task.owner task.property = some u)
    (hpending : u.fullName ∈ pending) : u ∈ catalog.expansions pending tasks := by
  induction pending, tasks using walk_induction catalog with
  | nil pending => simp at htask
  | leaf pending first rest hnone ih =>
    rw [expansions_leaf hnone]
    rcases List.mem_cons.1 htask with rfl | htask
    · rw [hnone] at hu
      cases hu
    · exact ih htask hpending
  | expand pending first rest target hsome hmem ih =>
    rw [expansions_expand hsome hmem, List.mem_cons]
    rcases List.mem_cons.1 htask with rfl | htask
    · rw [hsome] at hu
      exact Or.inl (Option.some.inj hu).symm
    · by_cases hname : u.fullName = target.fullName
      · exact Or.inl (eq_of_fullName_eq (customTarget_mem hu) (customTarget_mem hsome) hname)
      · exact Or.inr (ih (List.mem_append_right _ htask)
          ((List.mem_erase_of_ne hname).2 hpending))
  | skip pending first rest target hsome hmem ih =>
    rw [expansions_skip hsome hmem]
    rcases List.mem_cons.1 htask with rfl | htask
    · rw [hsome] at hu
      cases hu
      exact absurd hpending hmem
    · exact ih htask hpending

/-- What an expanded type leads to is expanded on the way, if it was pending. -/
theorem mem_expansions_of_leads {pending : List String} {tasks : List Task} {t u : TypeDecl}
    (ht : t ∈ catalog.expansions pending tasks) (hu : catalog.Leads t u)
    (hpending : u.fullName ∈ pending) : u ∈ catalog.expansions pending tasks := by
  induction pending, tasks using walk_induction catalog with
  | nil pending => simp at ht
  | leaf pending task rest hnone ih =>
    rw [expansions_leaf hnone] at ht ⊢
    exact ih ht hpending
  | expand pending task rest target hsome hmem ih =>
    rw [expansions_expand hsome hmem, List.mem_cons] at ht ⊢
    by_cases hname : u.fullName = target.fullName
    · exact Or.inl (eq_of_fullName_eq hu.mem_types (customTarget_mem hsome) hname)
    · right
      have hstill : u.fullName ∈ pending.erase target.fullName :=
        (List.mem_erase_of_ne hname).2 hpending
      rcases ht with rfl | ht
      · obtain ⟨property, hproperty, htarget⟩ := hu
        have hnew : ⟨t, joinPath task.path task.property.name, property⟩ ∈
            catalog.tasksOf t (joinPath task.path task.property.name) ++ rest :=
          List.mem_append_left _ (mem_tasksOf.2 ⟨rfl, rfl, hproperty⟩)
        exact mem_expansions_of_task hnew htarget hstill
      · exact ih ht hstill
  | skip pending task rest target hsome hmem ih =>
    rw [expansions_skip hsome hmem] at ht ⊢
    exact ih ht hpending

/-- Whatever is expanded is what a task expands into, or what a type expanded before it leads
to. -/
theorem exists_leads_of_expansions_eq {pending : List String} {tasks : List Task}
    {before after : List TypeDecl} {t : TypeDecl}
    (h : catalog.expansions pending tasks = before ++ t :: after) :
    (∃ task ∈ tasks, catalog.customTarget task.owner task.property = some t) ∨
      ∃ s ∈ before, catalog.Leads s t := by
  induction pending, tasks using walk_induction catalog generalizing before with
  | nil pending => simp at h
  | leaf pending task rest hnone ih =>
    rw [expansions_leaf hnone] at h
    exact (ih h).imp_left fun ⟨other, hother, ht⟩ ↦ ⟨other, List.mem_cons_of_mem _ hother, ht⟩
  | expand pending task rest target hsome hmem ih =>
    rw [expansions_expand hsome hmem] at h
    cases before with
    | nil =>
      obtain ⟨rfl, -⟩ := List.cons.inj h
      exact Or.inl ⟨task, List.mem_cons_self .., hsome⟩
    | cons s before =>
      obtain ⟨rfl, hrest⟩ := List.cons.inj h
      rcases ih hrest with ⟨other, hother, ht⟩ | ⟨r, hr, ht⟩
      · rcases List.mem_append.1 hother with hnew | hold
        · obtain ⟨howner, -, hproperty⟩ := mem_tasksOf.1 hnew
          rw [howner] at ht
          exact Or.inr ⟨target, List.mem_cons_self .., other.property, hproperty, ht⟩
        · exact Or.inl ⟨other, List.mem_cons_of_mem _ hold, ht⟩
      · exact Or.inr ⟨r, List.mem_cons_of_mem _ hr, ht⟩
  | skip pending task rest target hsome hmem ih =>
    rw [expansions_skip hsome hmem] at h
    exact (ih h).imp_left fun ⟨other, hother, ht⟩ ↦ ⟨other, List.mem_cons_of_mem _ hother, ht⟩

/-! ## The walk from a root -/

theorem nodup_othersThan (root : TypeDecl) : (catalog.othersThan root).Nodup :=
  catalog.distinct.erase _

theorem fullName_notMem_othersThan (root : TypeDecl) :
    root.fullName ∉ catalog.othersThan root :=
  catalog.distinct.not_mem_erase

/-- A type of the catalogue that is not pending at the beginning has the name of the root. -/
theorem mem_othersThan {root t : TypeDecl} (ht : t ∈ catalog.types)
    (h : t.fullName ≠ root.fullName) : t.fullName ∈ catalog.othersThan root :=
  (List.mem_erase_of_ne h).2 (List.mem_map_of_mem ht)

/-- **No type is discovered twice.** -/
theorem nodup_discovered (root : TypeDecl) :
    ((catalog.discovered root).map TypeDecl.fullName).Nodup := by
  rw [discovered_eq, List.map_cons, List.nodup_cons]
  refine ⟨fun hin ↦ ?_, nodup_expansions _ (nodup_othersThan root)⟩
  obtain ⟨t, ht, hname⟩ := List.mem_map.1 hin
  have hpending := fullName_mem_of_mem_expansions ht
  rw [hname] at hpending
  exact fullName_notMem_othersThan root hpending

theorem mem_types_of_mem_discovered {root t : TypeDecl} (hroot : root ∈ catalog.types)
    (ht : t ∈ catalog.discovered root) : t ∈ catalog.types := by
  rw [discovered_eq, List.mem_cons] at ht
  rcases ht with rfl | ht
  · exact hroot
  · exact expansions_subset_types ht

/-- Every type but the root is discovered because a type before it leads there. -/
theorem exists_leads_of_discovered_eq {root t : TypeDecl} {before after : List TypeDecl}
    (h : catalog.discovered root = before ++ t :: after) (hbefore : before ≠ []) :
    ∃ s ∈ before, catalog.Leads s t := by
  rw [discovered_eq] at h
  cases before with
  | nil => exact absurd rfl hbefore
  | cons first before =>
    obtain ⟨rfl, hrest⟩ := List.cons.inj h
    rcases exists_leads_of_expansions_eq hrest with ⟨task, htask, ht⟩ | ⟨s, hs, ht⟩
    · obtain ⟨howner, -, hproperty⟩ := mem_tasksOf.1 htask
      rw [howner] at ht
      exact ⟨root, List.mem_cons_self .., task.property, hproperty, ht⟩
    · exact ⟨s, List.mem_cons_of_mem _ hs, ht⟩

/-- What was discovered leads only to what was discovered. -/
theorem mem_discovered_of_leads {root t u : TypeDecl} (hroot : root ∈ catalog.types)
    (ht : t ∈ catalog.discovered root) (hu : catalog.Leads t u) :
    u ∈ catalog.discovered root := by
  rw [discovered_eq, List.mem_cons] at ht ⊢
  by_cases hname : u.fullName = root.fullName
  · exact Or.inl (eq_of_fullName_eq hu.mem_types hroot hname)
  · have hpending := mem_othersThan hu.mem_types hname
    rcases ht with rfl | ht
    · obtain ⟨property, hproperty, htarget⟩ := hu
      have htask : ⟨t, "", property⟩ ∈ catalog.tasksOf t "" :=
        mem_tasksOf.2 ⟨rfl, rfl, hproperty⟩
      exact Or.inr (mem_expansions_of_task htask htarget hpending)
    · exact Or.inr (mem_expansions_of_leads ht hu hpending)

/-! ### Routes -/

variable (catalog) in
/-- A task has come along a route from the root: its path spells out the way to its owner. -/
def OnRoute (root : TypeDecl) (task : Task) : Prop :=
  task.property ∈ catalog.documentedProperties task.owner ∧
    ∃ names, catalog.Route root names task.owner ∧ task.path = joinNames names

variable (catalog) in
/-- A visit lies at the end of a route from the root. -/
def EndsRoute (root : TypeDecl) : Visit → Prop
  | .leaf owner property path =>
    ∃ names, catalog.Route root names owner ∧ property ∈ catalog.standing owner ∧
      path = joinNames (names ++ [property.name])
  | .expand target => ∃ names, catalog.Route root names target

/-- **Every visit of the walk lies at the end of a route from the root.** -/
theorem endsRoute_of_mem_walk {root : TypeDecl} {visit : Visit}
    (h : visit ∈ catalog.walk root) : catalog.EndsRoute root visit := by
  refine forall_mem_walkFrom (P := catalog.OnRoute root) (Q := catalog.EndsRoute root)
    ?_ ?_ ?_ ?_ visit h
  · rintro task ⟨hproperty, names, hroute, hpath⟩ hnone
    refine ⟨names, hroute, ?_, ?_⟩
    · exact List.mem_filter.2 ⟨hproperty, decide_eq_true hnone⟩
    · rw [joinNames_append, hpath]
  · rintro task target ⟨hproperty, names, hroute, -⟩ hsome
    exact ⟨names ++ [task.property.name], hroute.step hproperty hsome⟩
  · rintro task target ⟨hproperty, names, hroute, hpath⟩ hsome new hnew
    obtain ⟨howner, hnewPath, hnewProperty⟩ := mem_tasksOf.1 hnew
    rw [OnRoute, howner, hnewPath]
    refine ⟨hnewProperty, names ++ [task.property.name], hroute.step hproperty hsome, ?_⟩
    rw [joinNames_append, hpath]
  · intro task htask
    obtain ⟨howner, hpath, hproperty⟩ := mem_tasksOf.1 htask
    rw [OnRoute, howner, hpath]
    exact ⟨hproperty, [], Route.start, rfl⟩

theorem reachable_of_mem_discovered {root t : TypeDecl} (ht : t ∈ catalog.discovered root) :
    catalog.Reachable root t := by
  rw [discovered, List.mem_cons] at ht
  rcases ht with rfl | ht
  · exact Relation.ReflTransGen.refl
  · obtain ⟨visit, hvisit, hexpanded⟩ := List.mem_filterMap.1 ht
    have hends := endsRoute_of_mem_walk hvisit
    cases visit with
    | leaf owner property path => cases hexpanded
    | expand target =>
      cases hexpanded
      obtain ⟨_, hroute⟩ := hends
      exact hroute.reachable

/-- **The walk discovers exactly the types that can be reached from its root.** -/
theorem mem_discovered_iff {root t : TypeDecl} (hroot : root ∈ catalog.types) :
    t ∈ catalog.discovered root ↔ catalog.Reachable root t := by
  refine ⟨reachable_of_mem_discovered, fun h ↦ ?_⟩
  induction h with
  | refl => exact List.mem_cons_self ..
  | tail _ hleads ih => exact mem_discovered_of_leads hroot ih hleads

/-! ## The properties that stand for themselves -/

variable (catalog) in
/-- The properties of `t` that stand for themselves among those of the given tasks. -/
def standingAmong (t : TypeDecl) (tasks : List Task) : List Property :=
  ((tasks.filter fun task ↦ task.owner = t).map Task.property).filter fun property ↦
    catalog.customTarget t property = none

theorem standingAmong_cons_of_ne {t : TypeDecl} {task : Task} {rest : List Task}
    (h : task.owner ≠ t) :
    catalog.standingAmong t (task :: rest) = catalog.standingAmong t rest := by
  rw [standingAmong, List.filter_cons_of_neg (by simpa using h), standingAmong]

theorem standingAmong_cons_leaf {task : Task} {rest : List Task}
    (h : catalog.customTarget task.owner task.property = none) :
    catalog.standingAmong task.owner (task :: rest) =
      task.property :: catalog.standingAmong task.owner rest := by
  rw [standingAmong, List.filter_cons_of_pos (by simp), List.map_cons,
    List.filter_cons_of_pos (by simpa using h), standingAmong]

theorem standingAmong_cons_target (t : TypeDecl) {task : Task} {rest : List Task}
    {target : TypeDecl} (h : catalog.customTarget task.owner task.property = some target) :
    catalog.standingAmong t (task :: rest) = catalog.standingAmong t rest := by
  by_cases howner : task.owner = t
  · subst howner
    rw [standingAmong, List.filter_cons_of_pos (by simp), List.map_cons,
      List.filter_cons_of_neg (by simp [h]), standingAmong]
  · exact standingAmong_cons_of_ne howner

theorem standingAmong_append (t : TypeDecl) (tasks more : List Task) :
    catalog.standingAmong t (tasks ++ more) =
      catalog.standingAmong t tasks ++ catalog.standingAmong t more := by
  simp only [standingAmong, List.filter_append, List.map_append]

theorem standingAmong_eq_nil {t : TypeDecl} {tasks : List Task}
    (h : ∀ task ∈ tasks, task.owner ≠ t) : catalog.standingAmong t tasks = [] := by
  have hnone : tasks.filter (fun task ↦ task.owner = t) = [] := by
    simpa [List.filter_eq_nil_iff] using h
  rw [standingAmong, hnone, List.map_nil, List.filter_nil]

theorem standingAmong_tasksOf (t : TypeDecl) (path : String) :
    catalog.standingAmong t (catalog.tasksOf t path) = catalog.standing t := by
  have hall : (catalog.tasksOf t path).filter (fun task ↦ task.owner = t) =
      catalog.tasksOf t path :=
    List.filter_eq_self.2 fun task htask ↦ decide_eq_true (mem_tasksOf.1 htask).1
  rw [standingAmong, hall, tasksOf, tasksFor, List.map_map, standing]
  exact congrArg _ (List.map_id _)

/-- A type that is not pending has no visits but those of the tasks that are there already. -/
theorem leaves_of_notMem {t : TypeDecl} {pending : List String} {tasks : List Task}
    (h : t.fullName ∉ pending) :
    (catalog.walkFrom pending tasks).filterMap (Visit.leafOf? t) =
      catalog.standingAmong t tasks := by
  induction pending, tasks using walk_induction catalog with
  | nil pending => rw [walkFrom_nil]; rfl
  | leaf pending task rest hnone ih =>
    rw [walkFrom_leaf hnone]
    by_cases howner : task.owner = t
    · subst howner
      rw [List.filterMap_cons_some (Visit.leafOf?_self ..), ih h, standingAmong_cons_leaf hnone]
    · rw [List.filterMap_cons_none (Visit.leafOf?_of_ne howner ..), ih h,
        standingAmong_cons_of_ne howner]
  | expand pending task rest target hsome hmem ih =>
    have hne : target ≠ t := by
      rintro rfl
      exact h hmem
    have hnew : catalog.standingAmong t
        (catalog.tasksOf target (joinPath task.path task.property.name)) = [] := by
      refine standingAmong_eq_nil fun new hmem ↦ ?_
      rw [(mem_tasksOf.1 hmem).1]
      exact hne
    rw [walkFrom_expand hsome hmem, List.filterMap_cons_none rfl,
      ih fun hin ↦ h (List.mem_of_mem_erase hin), standingAmong_append, hnew, List.nil_append,
      standingAmong_cons_target t hsome]
  | skip pending task rest target hsome hmem ih =>
    rw [walkFrom_skip hsome hmem, ih h, standingAmong_cons_target t hsome]

/-- A type that no task belongs to is visited when it is expanded, and then completely. -/
theorem leaves_of_expansions {t : TypeDecl} {pending : List String} {tasks : List Task}
    (hpending : pending.Nodup) (h : ∀ task ∈ tasks, task.owner ≠ t) :
    (catalog.walkFrom pending tasks).filterMap (Visit.leafOf? t) =
      if t ∈ catalog.expansions pending tasks then catalog.standing t else [] := by
  induction pending, tasks using walk_induction catalog with
  | nil pending => rw [walkFrom_nil, expansions_nil, if_neg List.not_mem_nil]; rfl
  | leaf pending task rest hnone ih =>
    rw [List.forall_mem_cons] at h
    rw [walkFrom_leaf hnone, List.filterMap_cons_none (Visit.leafOf?_of_ne h.1 ..),
      expansions_leaf hnone]
    exact ih hpending h.2
  | expand pending task rest target hsome hmem ih =>
    rw [List.forall_mem_cons] at h
    rw [walkFrom_expand hsome hmem, List.filterMap_cons_none rfl, expansions_expand hsome hmem]
    by_cases ht : target = t
    · subst ht
      -- this is the expansion of `t`; from here on it is not pending any more
      rw [leaves_of_notMem hpending.not_mem_erase, standingAmong_append, standingAmong_tasksOf,
        standingAmong_eq_nil h.2, List.append_nil, if_pos (List.mem_cons_self ..)]
    · have hothers : ∀ new ∈ catalog.tasksOf target (joinPath task.path task.property.name) ++ rest,
          new.owner ≠ t := by
        rw [List.forall_mem_append]
        refine ⟨fun new hnew ↦ ?_, h.2⟩
        rw [(mem_tasksOf.1 hnew).1]
        exact ht
      rw [ih (hpending.erase _) hothers]
      simp only [List.mem_cons, Ne.symm ht, false_or]
  | skip pending task rest target hsome hmem ih =>
    rw [walkFrom_skip hsome hmem, expansions_skip hsome hmem]
    exact ih hpending (List.forall_mem_cons.1 h).2

/-- **Every discovered type is visited completely**: the visits to its properties are the ones that
stand for themselves, each once and in the order of declaration.  Other types are not visited. -/
theorem standing_of_leaves (root t : TypeDecl) :
    (catalog.walk root).filterMap (Visit.leafOf? t) =
      if t ∈ catalog.discovered root then catalog.standing t else [] := by
  by_cases ht : t = root
  · subst ht
    have hmem : t ∈ catalog.discovered t := List.mem_cons_self ..
    rw [walk, leaves_of_notMem (fullName_notMem_othersThan t), standingAmong_tasksOf, if_pos hmem]
  · have hothers : ∀ task ∈ catalog.tasksOf root "", task.owner ≠ t := by
      intro task htask
      rw [(mem_tasksOf.1 htask).1]
      exact Ne.symm ht
    rw [walk, leaves_of_expansions (nodup_othersThan root) hothers]
    simp only [discovered_eq, List.mem_cons, ht, false_or]

/-! ## Two types that refer to each other

The smallest catalogue in which the walk comes back to where it began.  It stands for the general
case wherever one is wanted. -/

/-- A public property of a type, with nothing attached to it. -/
def plainProperty (name type : String) : Property where
  name
  type := .named type []
  accessibility := .public
  attributes := []
  documentation := none
  initializer := none

/-- A class in the global namespace, with nothing but its properties. -/
def plainClass (name : String) (properties : List Property) : TypeDecl where
  name
  space := ""
  kind := .class
  members := []
  sequence := false
  documentation := none
  attributes := []
  properties

/-- A server, which falls back to a pool. -/
def server : TypeDecl :=
  plainClass "Server" [plainProperty "Fallback" "Pool", plainProperty "Port" "int"]

/-- A pool, which has a server at its head. -/
def pool : TypeDecl :=
  plainClass "Pool" [plainProperty "Size" "int", plainProperty "Head" "Server"]

/-- The catalogue of servers and pools. -/
def circle : Catalog where
  types := [server, pool]
  reserved := defaultReserved
  distinct := by decide

example : circle.Leads server pool ∧ circle.Leads pool server :=
  ⟨⟨plainProperty "Fallback" "Pool", by decide, by decide⟩,
    ⟨plainProperty "Head" "Server", by decide, by decide⟩⟩

end Catalog

end ConfigDocs
