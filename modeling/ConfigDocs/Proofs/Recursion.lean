import ConfigDocs.Proofs.PageNames

/-!
# The recursions of the two layouts follow the walk

The inline layout collects rows by a recursion that carries a path and what has been visited
(`Catalog.collectRows`); the separate layout fills pages by a recursion that carries what has been
visited, the names given so far, the pages made so far and the place of the page that is being
filled (`Catalog.expand`).  Both go the way of the walk, and this file says what they bring back in
terms of it.

* `Catalog.inlineRows_eq_walk`: the rows of the inline table are those of the visits of the walk to
  properties that stand for themselves.
* `Catalog.separatePages_eq`: the pages of the separate layout are those of the types the walk
  discovers, as if all names had been claimed before the first row was written.

A recursion carries what has been visited and the walk what is pending, and the one is what the
other leaves of the catalogue (`Catalog.unvisited`).  Both recursions have the same four cases, so
there is one rule of induction for them (`Catalog.recursion_induction`).  What is proved of `expand`
is what it makes of the pages that are there, with any names that extend those it ends with
(`Catalog.Expands`): a row is written when only some of the names are known, and the name it links
to stays the same whatever is claimed later.
-/

set_option autoImplicit false

namespace ConfigDocs

namespace Catalog

variable {catalog : Catalog}

/-! ## What is unvisited is what is pending -/

theorem nodup_unvisited (visited : List String) : (catalog.unvisited visited).Nodup :=
  catalog.distinct.filter _

theorem mem_unvisited_iff {t : TypeDecl} (ht : t ∈ catalog.types) {visited : List String} :
    t.fullName ∈ catalog.unvisited visited ↔ t.fullName ∉ visited := by
  rw [unvisited, List.mem_filter, decide_eq_true_eq]
  exact and_iff_right (List.mem_map_of_mem ht)

/-- Visiting a type takes its name away, as expanding it does. -/
theorem unvisited_cons_eq_erase (name : String) (visited : List String) :
    catalog.unvisited (name :: visited) = (catalog.unvisited visited).erase name := by
  rw [unvisited_cons, (nodup_unvisited visited).erase_eq_filter]
  refine List.filter_congr fun other _ ↦ ?_
  rw [Bool.eq_iff_iff, decide_eq_true_eq, bne_iff_ne]

theorem othersThan_eq_unvisited (root : TypeDecl) :
    catalog.othersThan root = catalog.unvisited [root.fullName] := by
  rw [unvisited_cons_eq_erase, othersThan, unvisited]
  simp

variable (catalog) in
/-- Induction along either recursion, with one case for each thing that can be done with a property.
After a target has been entered, the properties behind it are gone through with the target visited
and perhaps more. -/
@[elab_as_elim]
theorem recursion_induction {motive : List String → TypeDecl → List Property → Prop}
    (nil : ∀ visited owner, motive visited owner [])
    (leaf : ∀ visited owner property rest, catalog.customTarget owner property = none →
      motive visited owner rest → motive visited owner (property :: rest))
    (skip : ∀ visited owner property rest target,
      catalog.customTarget owner property = some target → target.fullName ∈ visited →
      motive visited owner rest → motive visited owner (property :: rest))
    (enter : ∀ visited owner property rest target,
      catalog.customTarget owner property = some target → target.fullName ∉ visited →
      motive (target.fullName :: visited) target (catalog.documentedProperties target) →
      (∀ more, target.fullName :: visited ⊆ more → motive more owner rest) →
      motive visited owner (property :: rest))
    (visited : List String) (owner : TypeDecl) (properties : List Property) :
    motive visited owner properties := by
  -- entering a target leaves fewer types unvisited; anything else leaves fewer properties
  induction hlength : (catalog.unvisited visited).length using Nat.strongRecOn
    generalizing visited owner properties with
  | ind n ih =>
    subst hlength
    induction properties with
    | nil => exact nil visited owner
    | cons property rest ihrest =>
      cases htarget : catalog.customTarget owner property with
      | none => exact leaf visited owner property rest htarget ihrest
      | some target =>
        by_cases hvisited : target.fullName ∈ visited
        · exact skip visited owner property rest target htarget hvisited ihrest
        · have hlt := length_unvisited_cons_lt (customTarget_mem htarget) hvisited
          refine enter visited owner property rest target htarget hvisited ?_ fun more hmore ↦ ?_
          · exact ih _ hlt _ _ _ rfl
          · exact ih _ (Nat.lt_of_le_of_lt (length_unvisited_le hmore) hlt) _ _ _ rfl

/-! ## The rows of the inline table -/

section CollectRows

variable {owner : TypeDecl} {path : String} {visited : List String} {property : Property}
  {rest : List Property}

theorem collectRows_nil : (catalog.collectRows owner path visited []).1 = ([], visited) := by
  rw [collectRows]

theorem collectRows_cons :
    (catalog.collectRows owner path visited (property :: rest)).1 =
      let here := joinPath path property.name
      match catalog.customTarget owner property with
      | none =>
        let more := (catalog.collectRows owner path visited rest).1
        ((PropertyEntry.ofProperty catalog owner property here).row :: more.1, more.2)
      | some target =>
        if target.fullName ∈ visited then (catalog.collectRows owner path visited rest).1
        else
          let within := (catalog.collectRows target here (target.fullName :: visited)
            (catalog.documentedProperties target)).1
          let more := (catalog.collectRows owner path within.2 rest).1
          (within.1 ++ more.1, more.2) := by
  rw [collectRows]
  dsimp only
  split
  · rename_i hnone
    rw [hnone]
  · rename_i target hsome
    rw [hsome]
    dsimp only
    split <;> rfl

theorem collectRows_leaf (h : catalog.customTarget owner property = none) :
    (catalog.collectRows owner path visited (property :: rest)).1 =
      ((PropertyEntry.ofProperty catalog owner property (joinPath path property.name)).row ::
          (catalog.collectRows owner path visited rest).1.1,
        (catalog.collectRows owner path visited rest).1.2) := by
  rw [collectRows_cons, h]

theorem collectRows_skip {target : TypeDecl} (h : catalog.customTarget owner property = some target)
    (hvisited : target.fullName ∈ visited) :
    (catalog.collectRows owner path visited (property :: rest)).1 =
      (catalog.collectRows owner path visited rest).1 := by
  rw [collectRows_cons, h]
  exact if_pos hvisited

theorem collectRows_enter {target : TypeDecl}
    (h : catalog.customTarget owner property = some target) (hvisited : target.fullName ∉ visited)
    {within more : List Row × List String}
    (hwithin : (catalog.collectRows target (joinPath path property.name)
      (target.fullName :: visited) (catalog.documentedProperties target)).1 = within)
    (hmore : (catalog.collectRows owner path within.2 rest).1 = more) :
    (catalog.collectRows owner path visited (property :: rest)).1 =
      (within.1 ++ more.1, more.2) := by
  subst hwithin hmore
  rw [collectRows_cons, h]
  exact if_neg hvisited

end CollectRows

variable (catalog) in
/-- The row of a visit, if it is to a property that stands for itself. -/
def visitRow? : Visit → Option Row
  | .leaf owner property path =>
    some (PropertyEntry.ofProperty catalog owner property path).row
  | .expand _ => none

variable (catalog) in
/-- Collecting the rows of some properties is walking their tasks: it gives the rows of the visits,
and what it leaves unvisited is what the walk leaves pending. -/
def CollectsAsWalk (visited : List String) (path : String) (owner : TypeDecl)
    (properties : List Property) : Prop :=
  let collected := (catalog.collectRows owner path visited properties).1
  collected.1 = (catalog.walkFrom (catalog.unvisited visited)
      (tasksFor owner path properties)).filterMap catalog.visitRow? ∧
    catalog.unvisited collected.2 =
      catalog.pendingAfter (catalog.unvisited visited) (tasksFor owner path properties)

/-- **Collecting rows is walking**, whatever has been visited. -/
theorem collectsAsWalk (visited : List String) (path : String) (owner : TypeDecl)
    (properties : List Property) : catalog.CollectsAsWalk visited path owner properties := by
  induction visited, owner, properties using recursion_induction catalog
    generalizing path with
  | nil visited owner =>
    rw [CollectsAsWalk, collectRows_nil, tasksFor, List.map_nil, walkFrom_nil, pendingAfter_nil]
    exact ⟨rfl, rfl⟩
  | leaf visited owner property rest htarget ih =>
    obtain ⟨hrows, hpending⟩ := ih path
    have hvisit : catalog.visitRow? (.leaf owner property (joinPath path property.name)) =
      some (PropertyEntry.ofProperty catalog owner property
        (joinPath path property.name)).row := rfl
    rw [CollectsAsWalk, collectRows_leaf htarget, tasksFor_cons, walkFrom_leaf htarget,
      pendingAfter_leaf htarget, List.filterMap_cons_some hvisit]
    exact ⟨congrArg _ hrows, hpending⟩
  | skip visited owner property rest target htarget hvisited ih =>
    have hpending : target.fullName ∉ catalog.unvisited visited := fun h ↦
      (mem_unvisited_iff (customTarget_mem htarget)).1 h hvisited
    rw [CollectsAsWalk, collectRows_skip htarget hvisited, tasksFor_cons,
      walkFrom_skip htarget hpending, pendingAfter_skip htarget hpending]
    exact ih path
  | enter visited owner property rest target htarget hvisited ihwithin ihmore =>
    have hpending : target.fullName ∈ catalog.unvisited visited :=
      (mem_unvisited_iff (customTarget_mem htarget)).2 hvisited
    obtain ⟨hrows, hafter⟩ := ihwithin (joinPath path property.name)
    have hkept := (catalog.collectRows target (joinPath path property.name)
      (target.fullName :: visited) (catalog.documentedProperties target)).2
    obtain ⟨hmoreRows, hmoreAfter⟩ := ihmore _ hkept path
    rw [hafter, unvisited_cons_eq_erase] at hmoreRows hmoreAfter
    rw [unvisited_cons_eq_erase] at hrows
    rw [CollectsAsWalk, collectRows_enter htarget hvisited rfl rfl, tasksFor_cons,
      walkFrom_expand htarget hpending, pendingAfter_expand htarget hpending, walkFrom_append,
      pendingAfter_append, List.filterMap_cons_none rfl, List.filterMap_append]
    exact ⟨congrArg₂ _ hrows hmoreRows, hmoreAfter⟩

/-- **The inline table has a row for every visit** to a property that stands for itself. -/
theorem inlineRows_eq_walk (root : TypeDecl) :
    catalog.inlineRows root = (catalog.walk root).filterMap catalog.visitRow? := by
  rw [inlineRows, (collectsAsWalk ..).1, walk, othersThan_eq_unvisited, tasksOf]

end Catalog

/-! ## The state of the separate layout -/

theorem modify_append_left {α : Type} {xs : List α} {i : Nat} (h : i < xs.length) (ys : List α)
    (f : α → α) : (xs ++ ys).modify i f = xs.modify i f ++ ys := by
  induction xs generalizing i with
  | nil => cases h
  | cons x xs ih =>
    cases i with
    | zero => rfl
    | succ i =>
      rw [List.cons_append, List.modify_succ_cons, List.modify_succ_cons, List.cons_append,
        ih (Nat.lt_of_succ_lt_succ h)]

theorem modify_append_length {α : Type} (xs : List α) (x : α) (ys : List α) (f : α → α) :
    (xs ++ x :: ys).modify xs.length f = xs ++ f x :: ys := by
  induction xs with
  | nil => rfl
  | cons y xs ih =>
    rw [List.cons_append, List.length_cons, List.modify_succ_cons, ih, List.cons_append]

/-- An element put behind others is changed, more are put behind it, one of the others is changed,
and still more are put behind. -/
theorem modify_grown {α : Type} {xs : List α} {i : Nat} (h : i < xs.length) (x : α)
    (ys zs : List α) (f g : α → α) :
    ((xs ++ [x]).modify xs.length f ++ ys).modify i g ++ zs =
      xs.modify i g ++ f x :: (ys ++ zs) := by
  rw [modify_append_length, List.append_assoc, modify_append_left h, List.append_assoc]
  rfl

namespace SeparateWalk

variable (options : PassOptions) {walk : SeparateWalk} {t : TypeDecl}

/-- The types that have been met are those that have been visited. -/
def Abreast (walk : SeparateWalk) : Prop :=
  ∀ name, name ∈ walk.names.map (fun entry ↦ entry.1.fullName) ↔ name ∈ walk.visited

theorem length_pages_addRow (walk : SeparateWalk) (index : Nat) (row : Row) :
    (walk.addRow index row).pages.length = walk.pages.length :=
  List.length_modify ..

theorem nameFor_of_mem (h : t.fullName ∈ walk.names.map fun entry ↦ entry.1.fullName) :
    walk.nameFor options t = ((Catalog.nameOf walk.names t, false), walk) := by
  obtain ⟨found, hfound⟩ := Catalog.exists_find?_of_mem h
  rw [nameFor, hfound, Catalog.nameOf, hfound]
  rfl

theorem nameFor_of_notMem (h : t.fullName ∉ walk.names.map fun entry ↦ entry.1.fullName) :
    ∃ name ledger, walk.ledger.claim (Catalog.baseFileName t options.includeNamespaces)
        options.format.extension = (name, ledger) ∧
      walk.nameFor options t =
        ((name, true), { walk with ledger, names := walk.names ++ [(t, name)] }) := by
  rw [nameFor, Catalog.find?_eq_none_of_notMem h]
  exact ⟨_, _, rfl, rfl⟩

/-- The walk after a link to a type that is new, before its properties are gone through. -/
def meet (options : PassOptions) (index : Nat) (entry : PropertyEntry) (walk : SeparateWalk)
    (t : TypeDecl) : SeparateWalk :=
  let named := walk.nameFor options t
  ((named.2.addRow index (entry.linkRow named.1.1)).addPage
    { subject := t, fileName := some named.1.1, document := nestedDocument t options [] }).visit t

/-- A walk has met a type that was new to it. -/
structure Meets (options : PassOptions) (index : Nat) (entry : PropertyEntry) (t : TypeDecl)
    (name : String) (walk met : SeparateWalk) : Prop where
  /-- The name of the type was claimed from the ledger. -/
  claims : walk.ledger.claim (Catalog.baseFileName t options.includeNamespaces)
    options.format.extension = (name, met.ledger)
  /-- The type counts as visited. -/
  visited : met.visited = t.fullName :: walk.visited
  /-- The type has its name. -/
  names : met.names = walk.names ++ [(t, name)]
  /-- A row links to the page of the type, which stands behind the others and has no rows. -/
  pages : met.pages = walk.pages.modify index (Page.addRows · [entry.linkRow name]) ++
    [⟨t, some name, nestedDocument t options []⟩]

theorem exists_meets (h : t.fullName ∉ walk.names.map fun entry ↦ entry.1.fullName) (index : Nat)
    (entry : PropertyEntry) :
    ∃ name, Meets options index entry t name walk (walk.meet options index entry t) := by
  obtain ⟨name, ledger, hclaim, hnamed⟩ := nameFor_of_notMem options h
  rw [meet, hnamed]
  exact ⟨name, hclaim, rfl, rfl, rfl⟩

namespace Meets

variable {options} {index : Nat} {entry : PropertyEntry} {name : String} {met : SeparateWalk}
  (h : Meets options index entry t name walk met)

include h

theorem abreast (hwalk : walk.Abreast) : met.Abreast := by
  intro other
  rw [h.names, h.visited, List.map_append, List.mem_append, hwalk other, List.mem_cons, or_comm,
    List.map_singleton, List.mem_singleton]

theorem length_pages : met.pages.length = walk.pages.length + 1 := by
  rw [h.pages, List.length_append, List.length_modify, List.length_singleton]

end Meets

end SeparateWalk

namespace Catalog

variable {catalog : Catalog} {options : PassOptions}

/-! ## One property of the separate layout -/

section Expand

variable {owner : TypeDecl} {index : Nat} {walk : SeparateWalk} {property : Property}
  {rest : List Property}

theorem expand_nil : (catalog.expand options owner index walk []).1 = walk := by
  rw [expand]

theorem expand_cons :
    (catalog.expand options owner index walk (property :: rest)).1 =
      let entry := PropertyEntry.ofProperty catalog owner property property.name
      match catalog.customTarget owner property with
      | none => (catalog.expand options owner index (walk.addRow index entry.row) rest).1
      | some target =>
        let named := walk.nameFor options target
        let linked := named.2.addRow index (entry.linkRow named.1.1)
        if named.1.2 then
          let entered := linked.addPage
            { subject := target, fileName := some named.1.1,
              document := nestedDocument target options [] }
          if target.fullName ∈ entered.visited then
            (catalog.expand options owner index entered rest).1
          else
            let within := (catalog.expand options target (entered.pages.length - 1)
              (entered.visit target) (catalog.documentedProperties target)).1
            (catalog.expand options owner index within rest).1
        else (catalog.expand options owner index linked rest).1 := by
  rw [expand]
  dsimp only
  split
  · rename_i hnone
    rw [hnone]
  · rename_i target hsome
    rw [hsome]
    dsimp only
    split
    · split <;> rfl
    · rfl

theorem expand_leaf (h : catalog.customTarget owner property = none) :
    (catalog.expand options owner index walk (property :: rest)).1 =
      (catalog.expand options owner index (walk.addRow index
        (PropertyEntry.ofProperty catalog owner property property.name).row) rest).1 := by
  rw [expand_cons, h]

/-- A link to a type that has been visited is a row and nothing else. -/
theorem expand_link {target : TypeDecl} (h : catalog.customTarget owner property = some target)
    (hwalk : walk.Abreast) (hvisited : target.fullName ∈ walk.visited) :
    (catalog.expand options owner index walk (property :: rest)).1 =
      (catalog.expand options owner index (walk.addRow index
        ((PropertyEntry.ofProperty catalog owner property property.name).linkRow
          (nameOf walk.names target))) rest).1 := by
  have hnamed := SeparateWalk.nameFor_of_mem options ((hwalk _).2 hvisited)
  rw [expand_cons, h]
  dsimp only
  rw [hnamed]
  rfl

/-- A link to a type that has not been visited meets it and goes through its properties before those
that follow. -/
theorem expand_enter (options : PassOptions) (index : Nat) (rest : List Property)
    {target : TypeDecl} (h : catalog.customTarget owner property = some target)
    (hwalk : walk.Abreast) (hvisited : target.fullName ∉ walk.visited) :
    ∃ name met,
      SeparateWalk.Meets options index
        (PropertyEntry.ofProperty catalog owner property property.name) target name walk met ∧
      (catalog.expand options owner index walk (property :: rest)).1 =
        (catalog.expand options owner index
          (catalog.expand options target walk.pages.length met
            (catalog.documentedProperties target)).1 rest).1 := by
  have hmem : target.fullName ∉ walk.names.map fun entry ↦ entry.1.fullName :=
    (hwalk _).not.2 hvisited
  have hnew : (walk.nameFor options target).1.2 = true := by
    obtain ⟨name, ledger, -, hnamed⟩ := SeparateWalk.nameFor_of_notMem options hmem
    rw [hnamed]
  obtain ⟨name, hmeets⟩ := SeparateWalk.exists_meets options hmem index
    (PropertyEntry.ofProperty catalog owner property property.name)
  have hlength : walk.pages.length = _ - 1 := (Nat.sub_eq_of_eq_add hmeets.length_pages).symm
  refine ⟨name, _, hmeets, ?_⟩
  rw [expand_cons, h]
  dsimp only
  rw [if_pos hnew, if_neg (by simpa using hvisited), hlength]
  rfl

end Expand

/-! ## The pages of the separate layout -/

theorem modify_addRows (pages : List Page) (index : Nat) (rows more : List Row) :
    (pages.modify index (Page.addRows · rows)).modify index (Page.addRows · more) =
      pages.modify index (Page.addRows · (rows ++ more)) := by
  rw [List.modify_modify_eq]
  exact congrArg _ (funext fun page ↦ page.addRows_addRows rows more)

variable (catalog options) in
/-- The names that are claimed on the way through some properties of `owner`, and the ledger
then. -/
def claimedOnWay (walk : SeparateWalk) (owner : TypeDecl) (path : String)
    (properties : List Property) : List (TypeDecl × String) × Ledger :=
  claimNames options walk.ledger
    (catalog.expansions (catalog.unvisited walk.visited) (tasksFor owner path properties))

theorem claimedOnWay_nil (walk : SeparateWalk) (owner : TypeDecl) (path : String) :
    catalog.claimedOnWay options walk owner path [] = ([], walk.ledger) := by
  rw [claimedOnWay, tasksFor, List.map_nil, expansions_nil, claimNames]

variable (catalog options) in
/-- What becomes of a walk by some properties of `owner`, whose page is the one at `index`. -/
structure Expands (owner : TypeDecl) (path : String) (index : Nat) (properties : List Property)
    (walk result : SeparateWalk) : Prop where
  /-- What has been met has been visited. -/
  abreast : result.Abreast
  /-- What has not been visited is what the walk leaves pending. -/
  pending : catalog.unvisited result.visited =
    catalog.pendingAfter (catalog.unvisited walk.visited) (tasksFor owner path properties)
  /-- The types that the walk expands have names, in the order in which it expands them. -/
  names : result.names =
    walk.names ++ (catalog.claimedOnWay options walk owner path properties).1
  /-- Just these names have been claimed. -/
  ledger : result.ledger = (catalog.claimedOnWay options walk owner path properties).2
  /-- The page of the owner has the rows of the properties, and the pages of the types that the walk
  expands stand complete behind the others, whatever names are given later. -/
  pages : ∀ names, result.names <+: names →
    result.pages = walk.pages.modify index
        (Page.addRows · (properties.map (catalog.separateRow names owner))) ++
      (catalog.claimedOnWay options walk owner path properties).1.map
        (catalog.nestedPage names options)

namespace Expands

variable {owner : TypeDecl} {path : String} {index : Nat} {property : Property}
  {properties rest : List Property} {walk within result : SeparateWalk}

theorem length_le (h : catalog.Expands options owner path index properties walk result) :
    walk.pages.length ≤ result.pages.length := by
  rw [h.pages _ (List.prefix_refl _), List.length_append, List.length_modify]
  exact Nat.le_add_right ..

/-- A name that has been given stays. -/
theorem names_grow (h : catalog.Expands options owner path index properties walk result) :
    walk.names <+: result.names := by
  rw [h.names]
  exact List.prefix_append ..

theorem nil (h : walk.Abreast) : catalog.Expands options owner path index [] walk walk where
  abreast := h
  pending := (pendingAfter_nil _).symm
  names := by rw [claimedOnWay_nil, List.append_nil]
  ledger := by rw [claimedOnWay_nil]
  pages names _ := by
    rw [claimedOnWay_nil, List.map_nil, List.map_nil, List.append_nil]
    simp only [Page.addRows, List.append_nil]
    exact (List.modify_id ..).symm

/-- A property that the walk passes over is one more row. -/
theorem cons_row {row : Row}
    (hrow : ∀ names, walk.names <+: names → catalog.separateRow names owner property = row)
    (hpending : catalog.pendingAfter (catalog.unvisited walk.visited)
        (tasksFor owner path (property :: rest)) =
      catalog.pendingAfter (catalog.unvisited walk.visited) (tasksFor owner path rest))
    (hexpansions : catalog.expansions (catalog.unvisited walk.visited)
        (tasksFor owner path (property :: rest)) =
      catalog.expansions (catalog.unvisited walk.visited) (tasksFor owner path rest))
    (h : catalog.Expands options owner path index rest (walk.addRow index row) result) :
    catalog.Expands options owner path index (property :: rest) walk result := by
  have hclaimed : catalog.claimedOnWay options walk owner path (property :: rest) =
      catalog.claimedOnWay options (walk.addRow index row) owner path rest := by
    rw [claimedOnWay, hexpansions]
    rfl
  refine ⟨h.abreast, h.pending.trans hpending.symm, ?_, ?_, fun names hnames ↦ ?_⟩
  · rw [h.names, hclaimed]
    rfl
  · rw [h.ledger, hclaimed]
  · have hknown : walk.names <+: names := h.names_grow.trans hnames
    rw [h.pages names hnames, hclaimed, SeparateWalk.addRow, modify_addRows, List.map_cons,
      hrow names hknown, List.singleton_append]

section Enter

variable {target : TypeDecl} {name : String} {met : SeparateWalk}
  (htarget : catalog.customTarget owner property = some target)
  (hvisited : target.fullName ∉ walk.visited)
  (hmeets : SeparateWalk.Meets options index
    (PropertyEntry.ofProperty catalog owner property property.name) target name walk met)
  (hwithin : catalog.Expands options target (joinPath path property.name) walk.pages.length
    (catalog.documentedProperties target) met within)

include hmeets hwithin in
/-- What is pending after a new target is what was, less the target, after the properties of the
target. -/
theorem unvisited_within :
    catalog.unvisited within.visited =
      catalog.pendingAfter ((catalog.unvisited walk.visited).erase target.fullName)
        (catalog.tasksOf target (joinPath path property.name)) := by
  rw [hwithin.pending, hmeets.visited, unvisited_cons_eq_erase, tasksOf]

include htarget hvisited hmeets hwithin

/-- The name of a new target is claimed first, then those of the types behind it, and then those of
the types behind the properties that follow. -/
theorem claimedOnWay_cons (rest : List Property) :
    catalog.claimedOnWay options walk owner path (property :: rest) =
      ((target, name) ::
          ((catalog.claimedOnWay options met target (joinPath path property.name)
              (catalog.documentedProperties target)).1 ++
            (catalog.claimedOnWay options within owner path rest).1),
        (catalog.claimedOnWay options within owner path rest).2) := by
  have hpending : target.fullName ∈ catalog.unvisited walk.visited :=
    (mem_unvisited_iff (customTarget_mem htarget)).2 hvisited
  have hledger := hwithin.ledger
  rw [claimedOnWay] at hledger
  rw [claimedOnWay, claimedOnWay, claimedOnWay, hledger,
    unvisited_within hmeets hwithin, hmeets.visited, unvisited_cons_eq_erase,
    tasksFor_cons, expansions_expand htarget hpending, expansions_append, claimNames, hmeets.claims,
    claimNames_append]
  rfl

/-- A property whose target is new is a row that links to it, the page of that target with
everything behind it, and then the properties that follow. -/
theorem cons_enter (hwalk : walk.Abreast) (hindex : index < walk.pages.length)
    (hmore : catalog.Expands options owner path index rest within result) :
    catalog.Expands options owner path index (property :: rest) walk result := by
  have hclaimed := claimedOnWay_cons htarget hvisited hmeets hwithin rest
  have hpending : target.fullName ∈ catalog.unvisited walk.visited :=
    (mem_unvisited_iff (customTarget_mem htarget)).2 hvisited
  refine ⟨hmore.abreast, ?_, ?_, ?_, fun names hknown ↦ ?_⟩
  · rw [hmore.pending, unvisited_within hmeets hwithin, tasksFor_cons,
      pendingAfter_expand htarget hpending, pendingAfter_append]
  · rw [hmore.names, hwithin.names, hmeets.names, hclaimed]
    simp only [List.append_assoc, List.cons_append, List.nil_append]
  · rw [hmore.ledger, hclaimed]
  · have hmet : within.names <+: names := hmore.names_grow.trans hknown
    -- the link that was written is the one that is found among all names
    have hrow : catalog.separateRow names owner property =
        (PropertyEntry.ofProperty catalog owner property property.name).linkRow name := by
      have hnew : target.fullName ∉ walk.names.map fun entry ↦ entry.1.fullName :=
        (hwalk _).not.2 hvisited
      obtain ⟨more, rfl⟩ := hmet
      rw [separateRow_of_some htarget, hwithin.names, hmeets.names, List.append_assoc,
        nameOf_append_of_mem (by simp), nameOf_concat_self hnew]
    have hfilled : Page.addRows ⟨target, some name, nestedDocument target options []⟩
        ((catalog.documentedProperties target).map (catalog.separateRow names target)) =
          catalog.nestedPage names options (target, name) := rfl
    have hlength : (walk.pages.modify index (Page.addRows ·
        [(PropertyEntry.ofProperty catalog owner property property.name).linkRow name])).length =
        walk.pages.length := List.length_modify ..
    rw [hmore.pages names hknown, hwithin.pages names hmet, hmeets.pages, ← hlength,
      modify_grown (by rwa [hlength]), modify_addRows, hfilled, hclaimed, List.map_cons, hrow]
    dsimp only
    rw [List.map_cons, List.map_append, List.singleton_append]

end Enter

end Expands

variable (catalog options) in
/-- **Expanding is walking and claiming names**, with the pages made at the end. -/
theorem expands (visited : List String) (owner : TypeDecl) (properties : List Property)
    {walk : SeparateWalk} (hvisited : walk.visited = visited) (hwalk : walk.Abreast) (index : Nat)
    (hindex : index < walk.pages.length) (path : String) :
    catalog.Expands options owner path index properties walk
      (catalog.expand options owner index walk properties).1 := by
  induction visited, owner, properties using recursion_induction catalog
    generalizing walk index path with
  | nil visited owner =>
    rw [expand_nil]
    exact .nil hwalk
  | leaf visited owner property rest htarget ih =>
    rw [expand_leaf htarget]
    refine .cons_row (fun names _ ↦ separateRow_of_none htarget) ?_ ?_ ?_
    · rw [tasksFor_cons, pendingAfter_leaf htarget]
    · rw [tasksFor_cons, expansions_leaf htarget]
    · refine ih ?_ ?_ index ?_ path
      · exact hvisited
      · exact hwalk
      · rwa [SeparateWalk.length_pages_addRow]
  | skip visited owner property rest target htarget hmem ih =>
    subst hvisited
    have hpending : target.fullName ∉ catalog.unvisited walk.visited := fun h ↦
      (mem_unvisited_iff (customTarget_mem htarget)).1 h hmem
    have hrow : ∀ names, walk.names <+: names → catalog.separateRow names owner property =
        (PropertyEntry.ofProperty catalog owner property property.name).linkRow
          (nameOf walk.names target) := by
      rintro _ ⟨more, rfl⟩
      rw [separateRow_of_some htarget, nameOf_append_of_mem ((hwalk _).2 hmem)]
    rw [expand_link htarget hwalk hmem]
    refine .cons_row hrow ?_ ?_ ?_
    · rw [tasksFor_cons, pendingAfter_skip htarget hpending]
    · rw [tasksFor_cons, expansions_skip htarget hpending]
    · refine ih ?_ ?_ index ?_ path
      · rfl
      · exact hwalk
      · rwa [SeparateWalk.length_pages_addRow]
  | enter visited owner property rest target htarget hmem ihwithin ihmore =>
    subst hvisited
    obtain ⟨name, met, hmeets, hexpand⟩ :=
      expand_enter options index rest htarget hwalk hmem
    have hwithin := ihwithin hmeets.visited (hmeets.abreast hwalk) walk.pages.length
      (by rw [hmeets.length_pages]; exact Nat.lt_succ_self _) (joinPath path property.name)
    have hkept : target.fullName :: walk.visited ⊆ (catalog.expand options target walk.pages.length
        met (catalog.documentedProperties target)).1.visited := fun _ h ↦
      (catalog.expand options target walk.pages.length met
        (catalog.documentedProperties target)).2 (hmeets.visited ▸ h)
    have hlength := Nat.le_trans (Nat.le_of_succ_le hmeets.length_pages.ge) hwithin.length_le
    rw [hexpand]
    exact .cons_enter htarget hmem hmeets hwithin hwalk hindex
      (ihmore _ hkept rfl hwithin.abreast index (Nat.lt_of_lt_of_le hindex hlength) path)

/-- The pages of the separate layout are those of the walk that has named the root, made its page
and visited it, after the properties of the root. -/
theorem separatePages_eq_expand (root : TypeDecl) (options : PassOptions) (ledger : Ledger) :
    ∃ (name : String) (begun : SeparateWalk),
      ledger.claim (baseFileName root options.includeNamespaces) options.format.extension =
          (name, begun.ledger) ∧
        begun.visited = [root.fullName] ∧ begun.names = [(root, name)] ∧
        begun.pages = [⟨root, some name, rootDocument root options []⟩] ∧
        let result := (catalog.expand options root 0 begun (catalog.documentedProperties root)).1
        catalog.separatePages root options ledger = (result.pages, result.ledger) := by
  have hnew : root.fullName ∉ (SeparateWalk.mk ledger [] [] []).names.map fun entry ↦
      entry.1.fullName := List.not_mem_nil
  obtain ⟨name, after, hclaim, hnamed⟩ := SeparateWalk.nameFor_of_notMem options hnew
  refine ⟨name, ⟨after, [root.fullName], [(root, name)], _⟩, hclaim, rfl, rfl, rfl, ?_⟩
  rw [separatePages, hnamed]
  rfl

/-- **The pages of the separate layout** are those of the types the walk discovers, with the names
that are claimed for these types in the order of discovery. -/
theorem separatePages_eq (root : TypeDecl) (options : PassOptions) (ledger : Ledger) :
    catalog.separatePages root options ledger =
      (catalog.pagesOf options (catalog.pageNames root options ledger),
        (claimNames options ledger (catalog.discovered root)).2) := by
  obtain ⟨name, begun, hclaim, hvisited, hnames, hpages, hexpand⟩ :=
    catalog.separatePages_eq_expand root options ledger
  have hbegun : begun.Abreast := fun _ ↦ by rw [hnames, hvisited]; rfl
  have h := expands catalog options _ root (catalog.documentedProperties root) hvisited hbegun 0
    (by simp [hpages]) ""
  -- the name of the root is the first to be claimed
  have hclaimed : claimNames options ledger (catalog.discovered root) =
      ((root, name) :: (catalog.claimedOnWay options begun root ""
          (catalog.documentedProperties root)).1,
        (catalog.claimedOnWay options begun root "" (catalog.documentedProperties root)).2) := by
    rw [discovered_eq, claimNames, hclaim, othersThan_eq_unvisited, claimedOnWay, hvisited]
    rfl
  generalize (catalog.expand options root 0 begun (catalog.documentedProperties root)).1 = result
    at h hexpand
  have hresult : result.names = catalog.pageNames root options ledger := by
    rw [h.names, hnames, pageNames, hclaimed]
    rfl
  have hknown : result.names <+: catalog.pageNames root options ledger := by
    rw [hresult]
  rw [hexpand, h.ledger, h.pages _ hknown, hpages, pageNames, hclaimed]
  rfl

end Catalog

end ConfigDocs
