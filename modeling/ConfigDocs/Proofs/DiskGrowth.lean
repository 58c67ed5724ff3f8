import Mathlib.Data.List.TakeWhile
import Mathlib.Order.Defs.PartialOrder
import ConfigDocs.Disk.FileSystem

/-!
# What stays on a disk

Neither of the two operations that change a file system takes anything away: a directory stays a
directory and a file stays a file, though what it holds may change.  This is an order on file
systems (`FileSystem.le_iff`), and where a path leads depends on nothing else, so a path that leads
somewhere leads there ever after.

Both operations put one entry at the place where a path ends (`FileSystem.EndsAt`).  What is said
here about them is what a second run needs: a directory that has been made is found where it was
asked for, asking for it again changes nothing, and where a file has been written there will never
be a directory.
-/

set_option autoImplicit false

namespace ConfigDocs

/-- What an entry is, whatever it holds. -/
inductive Entry.Kind where
  | directory
  | file
deriving DecidableEq, Repr

/-- The kind of an entry. -/
def Entry.kind : Entry → Entry.Kind
  | .directory => .directory
  | .file _ => .file

namespace FileSystem

variable {fs fs' : FileSystem} {place next outer : Place} {piece last : List Char} {p : Path}
  {slashes : Bool}

/-! ## The order -/

/-- The kind of what stands at a place. -/
def kind? (fs : FileSystem) (place : Place) : Option Entry.Kind :=
  (fs.occupant? place).map Entry.kind

/-- Everything that stands in a smaller file system stands in a greater one, as what it is. -/
instance : Preorder FileSystem where
  le fs fs' := fs'.workingPlace = fs.workingPlace ∧
    ∀ place kind, fs.kind? place = some kind → fs'.kind? place = some kind
  le_refl _ := ⟨rfl, fun _ _ h ↦ h⟩
  le_trans _ _ _ h h' :=
    ⟨h'.1.trans h.1, fun place kind hkind ↦ h'.2 place kind (h.2 place kind hkind)⟩

theorem le_iff : fs ≤ fs' ↔ fs'.workingPlace = fs.workingPlace ∧
    ∀ place kind, fs.kind? place = some kind → fs'.kind? place = some kind :=
  Iff.rfl

theorem workingPlace_of_le (h : fs ≤ fs') : fs'.workingPlace = fs.workingPlace :=
  h.1

theorem kind?_of_le (h : fs ≤ fs') {kind : Entry.Kind} (hkind : fs.kind? place = some kind) :
    fs'.kind? place = some kind :=
  h.2 place kind hkind

theorem kind?_eq_directory :
    fs.kind? place = some .directory ↔ fs.occupant? place = some .directory := by
  rw [kind?]
  cases fs.occupant? place with
  | none => simp
  | some entry => cases entry <;> simp [Entry.kind]

theorem occupant?_directory_of_le (h : fs ≤ fs') (hplace : fs.occupant? place = some .directory) :
    fs'.occupant? place = some .directory :=
  kind?_eq_directory.1 (kind?_of_le h (kind?_eq_directory.2 hplace))

theorem isSome_occupant?_of_le (h : fs ≤ fs') (hplace : (fs.occupant? place).isSome = true) :
    (fs'.occupant? place).isSome = true := by
  obtain ⟨entry, hentry⟩ := Option.isSome_iff_exists.1 hplace
  have hbefore : fs.kind? place = some entry.kind := by
    rw [kind?, hentry]
    rfl
  have hkind := kind?_of_le h hbefore
  rw [kind?] at hkind
  cases hplace' : fs'.occupant? place with
  | none => simp [hplace'] at hkind
  | some _ => rfl

/-! ## Where a path leads -/

theorem step_of_le (h : fs ≤ fs') (hstep : fs.step place piece = .ok next) :
    fs'.step place piece = .ok next := by
  rw [step] at hstep ⊢
  cases hplace : fs.occupant? place with
  | none => simp [hplace] at hstep
  | some entry =>
    cases entry with
    | file _ => simp [hplace] at hstep
    | directory =>
      rw [hplace] at hstep
      rw [occupant?_directory_of_le h hplace]
      dsimp only at hstep ⊢
      by_cases hidle : Path.isIdle piece = true
      · rw [if_pos hidle] at hstep ⊢
        exact hstep
      · rw [if_neg hidle] at hstep ⊢
        by_cases hup : piece = ['.', '.']
        · rw [if_pos hup] at hstep ⊢
          exact hstep
        · rw [if_neg hup] at hstep ⊢
          split at hstep
          · cases hstep
          · rename_i hshort
            split at hstep
            · rename_i hsome
              rw [if_neg hshort, if_pos (isSome_occupant?_of_le h hsome)]
              exact hstep
            · cases hstep

theorem follow_of_le (h : fs ≤ fs') {pieces : List (List Char)}
    (hfollow : fs.follow place pieces = .ok next) : fs'.follow place pieces = .ok next := by
  induction pieces generalizing place with
  | nil => exact hfollow
  | cons piece pieces ih =>
    rw [follow] at hfollow ⊢
    cases hstep : fs.step place piece with
    | error failure => simp [hstep] at hfollow
    | ok middle =>
      rw [hstep] at hfollow
      rw [step_of_le h hstep]
      exact ih hfollow

theorem start_of_le (h : fs ≤ fs') (p : Path) : fs'.start p = fs.start p := by
  rw [start, start, workingPlace_of_le h]

theorem locate_of_le (h : fs ≤ fs') (hlocate : fs.locate p = .ok place) :
    fs'.locate p = .ok place := by
  rw [locate] at hlocate ⊢
  rw [start_of_le h]
  cases hstart : fs.start p with
  | error failure => simp [hstart] at hlocate
  | ok way =>
    rw [hstart] at hlocate
    exact follow_of_le h hlocate

theorem isDirectory_iff :
    fs.isDirectory p = true ↔
      ∃ place, fs.locate p = .ok place ∧ fs.occupant? place = some .directory := by
  rw [isDirectory, stat?]
  cases fs.locate p with
  | error failure => simp
  | ok place => simp

/-- **A path that leads to a directory always will.** -/
theorem isDirectory_of_le (h : fs ≤ fs') (hp : fs.isDirectory p = true) :
    fs'.isDirectory p = true := by
  obtain ⟨place, hlocate, hplace⟩ := isDirectory_iff.1 hp
  exact isDirectory_iff.2 ⟨place, locate_of_le h hlocate, occupant?_directory_of_le h hplace⟩

theorem follow_append (place : Place) (before after : List (List Char)) :
    fs.follow place (before ++ after) =
      (fs.follow place before).bind fun next ↦ fs.follow next after := by
  induction before generalizing place with
  | nil => rfl
  | cons piece before ih =>
    rw [List.cons_append, follow, follow]
    cases fs.step place piece with
    | error failure => rfl
    | ok next => exact ih next

/-- Slashes at the end of a path lead from a directory to itself. -/
theorem follow_replicate_nil (h : fs.occupant? place = some .directory) (k : Nat) :
    fs.follow place (List.replicate k []) = .ok place := by
  induction k with
  | zero => rfl
  | succ k ih =>
    have hstep : fs.step place [] = .ok place := by
      rw [step, h]
      rfl
    rw [List.replicate_succ, follow, hstep]
    exact ih

/-- Slashes at the end of a path lead nowhere else. -/
theorem eq_of_follow_replicate_nil {k : Nat}
    (h : fs.follow place (List.replicate k []) = .ok next) : next = place := by
  induction k with
  | zero => exact (Except.ok.inj h).symm
  | succ k ih =>
    rw [List.replicate_succ, follow, step] at h
    cases hplace : fs.occupant? place with
    | none => simp [hplace] at h
    | some entry =>
      cases entry with
      | file _ => simp [hplace] at h
      | directory =>
        rw [hplace] at h
        exact ih h

/-! ## Where a path ends -/

/-- A path ends with a proper name behind a directory, which may or may not stand there. -/
structure EndsAt (fs : FileSystem) (p : Path) (outer : Place) (last : List Char) (slashes : Bool) :
    Prop where
  /-- The end of the path. -/
  enclosing : fs.enclosing p = .ok (some (outer, last, slashes))
  /-- There is a directory before the name. -/
  parent : fs.occupant? outer = some .directory
  /-- The name leads somewhere. -/
  busy : Path.isIdle last = false
  /-- The name leads inside. -/
  inner : last ≠ ['.', '.']
  /-- The name can exist. -/
  short : isTooLong (String.ofList last) = false

theorem enclosing_eq_some (h : fs.enclosing p = .ok (some (outer, last, slashes))) :
    ∃ place pieces before, fs.start p = .ok (place, pieces) ∧
      lastPiece pieces = some (before, last, slashes) ∧ fs.follow place before = .ok outer := by
  rw [FileSystem.enclosing] at h
  cases hstart : fs.start p with
  | error failure => simp [hstart] at h
  | ok way =>
    obtain ⟨place, pieces⟩ := way
    rw [hstart] at h
    dsimp only at h
    cases hpieces : lastPiece pieces with
    | none => simp [hpieces] at h
    | some end' =>
      obtain ⟨before, last', slashes'⟩ := end'
      rw [hpieces] at h
      dsimp only at h
      cases hbefore : fs.follow place before with
      | error failure => simp [hbefore] at h
      | ok outer' =>
        simp only [hbefore, Except.ok.injEq, Option.some.injEq, Prod.mk.injEq] at h
        obtain ⟨rfl, rfl, rfl⟩ := h
        exact ⟨place, pieces, before, rfl, hpieces, hbefore⟩

theorem EndsAt.of_le (h : fs.EndsAt p outer last slashes) (hle : fs ≤ fs') :
    fs'.EndsAt p outer last slashes where
  enclosing := by
    obtain ⟨place, pieces, before, hstart, hpieces, hbefore⟩ := enclosing_eq_some h.enclosing
    rw [FileSystem.enclosing, start_of_le hle, hstart]
    simp only [hpieces, follow_of_le hle hbefore]
  parent := occupant?_directory_of_le hle h.parent
  busy := h.busy
  inner := h.inner
  short := h.short

theorem lastPiece_eq_some {pieces before : List (List Char)}
    (h : lastPiece pieces = some (before, last, slashes)) :
    ∃ k, pieces = before ++ last :: List.replicate k [] ∧ (slashes = false → k = 0) := by
  rw [lastPiece] at h
  have hsplit :=
    List.takeWhile_append_dropWhile (p := (· == ([] : List Char))) (l := pieces.reverse)
  cases hdrop : pieces.reverse.dropWhile (· == []) with
  | nil =>
    rw [hdrop] at h
    cases h
  | cons last' before' =>
    rw [hdrop] at h hsplit
    simp only [Option.some.injEq, Prod.mk.injEq] at h
    obtain ⟨rfl, rfl, rfl⟩ := h
    have hempty : pieces.reverse.takeWhile (· == []) =
        List.replicate (pieces.reverse.takeWhile (· == [])).length [] := by
      refine List.eq_replicate_of_mem fun piece hpiece ↦ ?_
      exact beq_iff_eq.1 (List.mem_takeWhile_imp (p := (· == ([] : List Char))) hpiece)
    rw [hempty] at hsplit
    have hpieces := congrArg List.reverse hsplit
    rw [List.reverse_reverse, List.reverse_append, List.reverse_cons, List.reverse_replicate,
      List.append_assoc, List.singleton_append] at hpieces
    refine ⟨_, hpieces.symm, fun hslashes ↦ ?_⟩
    cases hlength : (pieces.reverse.takeWhile (· == [])).length with
    | zero => rfl
    | succ k =>
      have hlast : pieces.getLast? = some [] := by
        rw [← hpieces, hlength, List.replicate_succ', ← List.cons_append, ← List.append_assoc,
          List.getLast?_concat]
      rw [hlast] at hslashes
      cases hslashes

/-- A step to the end of a path. -/
theorem EndsAt.step_eq (h : fs.EndsAt p outer last slashes) :
    fs.step outer last = if (fs.occupant? (String.ofList last :: outer)).isSome
      then .ok (String.ofList last :: outer) else .error .notFound := by
  rw [step, h.parent]
  simp [h.busy, h.inner, h.short]

theorem EndsAt.locate_eq (h : fs.EndsAt p outer last slashes) :
    ∃ k, (slashes = false → k = 0) ∧
      fs.locate p = (fs.step outer last).bind fun next ↦ fs.follow next (List.replicate k []) := by
  obtain ⟨place, pieces, before, hstart, hpieces, hbefore⟩ := enclosing_eq_some h.enclosing
  obtain ⟨k, rfl, hk⟩ := lastPiece_eq_some hpieces
  refine ⟨k, hk, ?_⟩
  rw [locate, hstart]
  dsimp only
  rw [follow_append, hbefore, Except.bind, follow]
  cases fs.step outer last with
  | error failure => rfl
  | ok next => rfl

/-- A path leads to its end if there is a directory. -/
theorem EndsAt.isDirectory (h : fs.EndsAt p outer last slashes)
    (hend : fs.occupant? (String.ofList last :: outer) = some .directory) :
    fs.isDirectory p = true := by
  obtain ⟨k, -, hlocate⟩ := h.locate_eq
  rw [h.step_eq, hend, Option.isSome_some, if_pos rfl, Except.bind,
    follow_replicate_nil hend] at hlocate
  exact isDirectory_iff.2 ⟨_, hlocate, hend⟩

/-- A path leads nowhere but to its end. -/
theorem EndsAt.occupant?_of_isDirectory (h : fs.EndsAt p outer last slashes)
    (hp : fs.isDirectory p = true) :
    fs.occupant? (String.ofList last :: outer) = some .directory := by
  obtain ⟨place, hlocate, hplace⟩ := isDirectory_iff.1 hp
  obtain ⟨k, -, hend⟩ := h.locate_eq
  rw [hlocate, h.step_eq] at hend
  split at hend
  · rw [← eq_of_follow_replicate_nil hend.symm]
    exact hplace
  · cases hend

/-! ## Operations -/

/-- A file system with an entry put at a place, in which nothing else is changed. -/
structure IsPut (fs : FileSystem) (place : Place) (entry : Entry) (fs' : FileSystem) : Prop where
  /-- Relative paths start where they did. -/
  workingPlace : fs'.workingPlace = fs.workingPlace
  /-- What stands where. -/
  occupant? : ∀ other,
    fs'.occupant? other = if other = place then some entry else fs.occupant? other

theorem IsPut.occupant?_self {entry : Entry} (h : fs.IsPut place entry fs') :
    fs'.occupant? place = some entry := by
  rw [h.occupant?, if_pos rfl]

theorem IsPut.le {entry : Entry} (h : fs.IsPut place entry fs')
    (hkind : ∀ kind, fs.kind? place = some kind → kind = entry.kind) : fs ≤ fs' := by
  refine ⟨h.workingPlace, fun other kind hother ↦ ?_⟩
  rw [kind?, h.occupant?]
  split
  · rename_i heq
    subst heq
    rw [hkind kind hother]
    rfl
  · exact hother

theorem makeDirectory_eq_ok (h : fs.makeDirectory p = .ok fs') :
    ∃ outer last slashes, fs.EndsAt p outer last slashes ∧
      fs.occupant? (String.ofList last :: outer) = none ∧
      fs.IsPut (String.ofList last :: outer) .directory fs' := by
  rw [makeDirectory] at h
  cases hend : fs.enclosing p with
  | error failure => simp [hend] at h
  | ok found =>
    cases found with
    | none => simp [hend] at h
    | some found =>
      obtain ⟨outer, last, slashes⟩ := found
      rw [hend] at h
      dsimp only at h
      split at h
      · rename_i hparent
        split at h
        · cases h
        · rename_i hname
          split at h
          · cases h
          · rename_i hshort
            split at h
            · rename_i hfree
              rw [not_or, Bool.not_eq_true] at hname
              rw [Bool.not_eq_true] at hshort
              obtain rfl := Except.ok.inj h
              exact ⟨outer, last, slashes, ⟨hend, hparent, hname.1, hname.2, hshort⟩, hfree, rfl,
                fun _ ↦ occupant?_put ..⟩
            · cases h
      · cases h

/-- A directory is made where a path ends, unless something is there. -/
theorem EndsAt.exists_makeDirectory (h : fs.EndsAt p outer last slashes)
    (hfree : fs.occupant? (String.ofList last :: outer) = none) :
    ∃ fs', fs.makeDirectory p = .ok fs' ∧
      fs.IsPut (String.ofList last :: outer) .directory fs' := by
  refine ⟨fs.put (String.ofList last) outer .directory h.parent (by simp [hfree]), ?_, rfl,
    fun _ ↦ occupant?_put ..⟩
  have hname : ¬(Path.isIdle last = true ∨ last = ['.', '.']) := by simp [h.busy, h.inner]
  rw [makeDirectory, h.enclosing]
  dsimp only
  rw [dif_pos h.parent, if_neg hname, if_neg (by simp [h.short]), dif_pos hfree]

theorem writeContent_eq_ok {content : Content} (h : fs.writeContent p content = .ok fs') :
    ∃ outer last, fs.EndsAt p outer last false ∧
      fs.occupant? (String.ofList last :: outer) ≠ some .directory ∧
      fs.IsPut (String.ofList last :: outer) (.file content) fs' := by
  rw [writeContent] at h
  cases hend : fs.enclosing p with
  | error failure => simp [hend] at h
  | ok found =>
    cases found with
    | none => simp [hend] at h
    | some found =>
      obtain ⟨outer, last, slashes⟩ := found
      rw [hend] at h
      dsimp only at h
      split at h
      · rename_i hparent
        split at h
        · cases h
        · rename_i hname
          split at h
          · cases h
          · rename_i hshort
            split at h
            · cases h
            · rename_i hfree
              rw [not_or, not_or, Bool.not_eq_true, Bool.not_eq_true] at hname
              rw [Bool.not_eq_true] at hshort
              obtain rfl := Except.ok.inj h
              rw [hname.2.2] at hend
              exact ⟨outer, last, ⟨hend, hparent, hname.1, hname.2.1, hshort⟩, hfree, rfl,
                fun _ ↦ occupant?_put ..⟩
      · cases h

/-- A file is written where a path ends, unless a directory is there. -/
theorem EndsAt.exists_writeContent (h : fs.EndsAt p outer last false) (content : Content)
    (hfree : fs.occupant? (String.ofList last :: outer) ≠ some .directory) :
    ∃ fs', fs.writeContent p content = .ok fs' ∧
      fs.IsPut (String.ofList last :: outer) (.file content) fs' := by
  refine ⟨fs.put (String.ofList last) outer (.file content) h.parent hfree, ?_, rfl,
    fun _ ↦ occupant?_put ..⟩
  have hname : ¬(Path.isIdle last = true ∨ last = ['.', '.'] ∨ false = true) := by
    simp [h.busy, h.inner]
  rw [writeContent, h.enclosing]
  dsimp only
  rw [dif_pos h.parent, if_neg hname, if_neg (by simp [h.short]), dif_neg hfree]

theorem le_of_writeContent {content : Content} (h : fs.writeContent p content = .ok fs') :
    fs ≤ fs' := by
  obtain ⟨outer, last, -, hfree, hput⟩ := writeContent_eq_ok h
  refine hput.le fun kind hkind ↦ ?_
  cases kind with
  | file => rfl
  | directory => exact absurd (kind?_eq_directory.1 hkind) hfree

/-- **Where a file has been written there will never be a directory.** -/
theorem isDirectory_of_writeContent {content : Content} {later : FileSystem}
    (h : fs.writeContent p content = .ok fs') (hle : fs' ≤ later) :
    later.isDirectory p = false := by
  obtain ⟨outer, last, hend, -, hput⟩ := writeContent_eq_ok h
  have hfile : later.kind? (String.ofList last :: outer) = some .file :=
    kind?_of_le hle (by rw [kind?, hput.occupant?_self]; rfl)
  cases hp : later.isDirectory p with
  | false => rfl
  | true =>
    have hend' := hend.of_le ((le_of_writeContent h).trans hle)
    rw [kind?_eq_directory.2 (hend'.occupant?_of_isDirectory hp)] at hfile
    cases hfile

/-! ## Making directories -/

/-- Nothing is changed but that there are directories where nothing stood. -/
structure IsBuiltOn (fs fs' : FileSystem) : Prop where
  /-- Relative paths start where they did. -/
  workingPlace : fs'.workingPlace = fs.workingPlace
  /-- What stands where. -/
  occupant? : ∀ place, fs'.occupant? place = fs.occupant? place ∨
    fs.occupant? place = none ∧ fs'.occupant? place = some .directory

theorem IsBuiltOn.refl (fs : FileSystem) : fs.IsBuiltOn fs :=
  ⟨rfl, fun _ ↦ .inl rfl⟩

theorem IsBuiltOn.trans {fs'' : FileSystem} (h : fs.IsBuiltOn fs') (h' : fs'.IsBuiltOn fs'') :
    fs.IsBuiltOn fs'' := by
  refine ⟨h'.workingPlace.trans h.workingPlace, fun place ↦ ?_⟩
  rcases h'.occupant? place with hsame' | ⟨hnone', hmade'⟩
  · rw [hsame']
    exact h.occupant? place
  · rcases h.occupant? place with hsame | ⟨-, hmade⟩
    · exact .inr ⟨hsame ▸ hnone', hmade'⟩
    · rw [hmade] at hnone'
      cases hnone'

theorem IsBuiltOn.le (h : fs.IsBuiltOn fs') : fs ≤ fs' := by
  refine ⟨h.workingPlace, fun place kind hkind ↦ ?_⟩
  rcases h.occupant? place with hsame | ⟨hnone, -⟩
  · rw [kind?, hsame]
    exact hkind
  · simp [kind?, hnone] at hkind

theorem isBuiltOn_of_makeDirectory (h : fs.makeDirectory p = .ok fs') : fs.IsBuiltOn fs' := by
  obtain ⟨outer, last, slashes, -, hfree, hput⟩ := makeDirectory_eq_ok h
  refine ⟨hput.workingPlace, fun place ↦ ?_⟩
  rw [hput.occupant?]
  split
  · rename_i heq
    exact .inr ⟨heq ▸ hfree, rfl⟩
  · exact .inl rfl

theorem isDirectory_of_makeDirectory (h : fs.makeDirectory p = .ok fs') :
    fs'.isDirectory p = true := by
  obtain ⟨outer, last, slashes, hend, -, hput⟩ := makeDirectory_eq_ok h
  exact (hend.of_le (isBuiltOn_of_makeDirectory h).le).isDirectory hput.occupant?_self

theorem isBuiltOn_ensureDirectory (fs : FileSystem) (p : Path) :
    fs.IsBuiltOn (fs.ensureDirectory p).2 := by
  rw [ensureDirectory]
  split
  · exact .refl fs
  · cases hmade : fs.makeDirectory p with
    | ok fs' => exact isBuiltOn_of_makeDirectory hmade
    | error failure =>
      dsimp only
      split
      · exact .refl fs
      · exact .refl fs

theorem isDirectory_of_ensureDirectory (hp : p.text.isEmpty = false)
    (h : (fs.ensureDirectory p).1 = .ok ()) : (fs.ensureDirectory p).2.isDirectory p = true := by
  rw [ensureDirectory, if_neg (by simp [hp])] at h ⊢
  cases hmade : fs.makeDirectory p with
  | ok fs' => exact isDirectory_of_makeDirectory hmade
  | error failure =>
    rw [hmade] at h
    dsimp only at h ⊢
    split at h
    · rename_i hdirectory
      rw [if_pos hdirectory]
      exact hdirectory
    · cases h

theorem ensureDirectory_of_isDirectory (h : fs.isDirectory p = true) :
    fs.ensureDirectory p = (.ok (), fs) := by
  rw [ensureDirectory]
  split
  · rfl
  · cases hmade : fs.makeDirectory p with
    | ok fs' =>
      obtain ⟨outer, last, slashes, hend, hfree, -⟩ := makeDirectory_eq_ok hmade
      rw [hend.occupant?_of_isDirectory h] at hfree
      cases hfree
    | error failure => rfl

theorem isBuiltOn_makeDirectoriesFrom (fs : FileSystem) (p : Path) (parents : List Path) :
    fs.IsBuiltOn (fs.makeDirectoriesFrom p parents).2 := by
  fun_induction makeDirectoriesFrom fs p parents with
  | case1 p => exact isBuiltOn_ensureDirectory fs p
  | case2 p parent more _ _ fs' hmade ih =>
    rw [hmade] at ih
    exact ih.trans (isBuiltOn_ensureDirectory fs' p)
  | case3 p parent more _ _ _ ih => exact ih
  | case4 p parent more _ => exact isBuiltOn_ensureDirectory fs p

theorem isDirectory_of_makeDirectoriesFrom {parents : List Path} (hp : p.text.isEmpty = false)
    (h : (fs.makeDirectoriesFrom p parents).1 = .ok ()) :
    (fs.makeDirectoriesFrom p parents).2.isDirectory p = true := by
  revert h
  fun_cases makeDirectoriesFrom fs p parents with
  | case1 => exact isDirectory_of_ensureDirectory hp
  | case2 parent more _ _ fs' _ => exact isDirectory_of_ensureDirectory hp
  | case3 parent more _ _ hfailed =>
    intro hmade
    exact (hfailed (fs.makeDirectoriesFrom parent more).2 (Prod.ext hmade rfl)).elim
  | case4 => exact isDirectory_of_ensureDirectory hp

theorem isBuiltOn_makeDirectories (fs : FileSystem) (p : Path) :
    fs.IsBuiltOn (fs.makeDirectories p).2 :=
  isBuiltOn_makeDirectoriesFrom fs p p.parents

/-- **A directory that has been made is found where it was asked for.** -/
theorem isDirectory_of_makeDirectories (hp : p.text.isEmpty = false)
    (h : (fs.makeDirectories p).1 = .ok ()) : (fs.makeDirectories p).2.isDirectory p = true :=
  isDirectory_of_makeDirectoriesFrom hp h

theorem makeDirectories_of_ensureDirectory (h : fs.ensureDirectory p = (.ok (), fs')) :
    fs.makeDirectories p = (.ok (), fs') := by
  rw [makeDirectories]
  cases p.parents with
  | nil => exact h
  | cons parent more => rw [makeDirectoriesFrom, h]

/-- A directory is made at once where no parent is missing. -/
theorem EndsAt.exists_makeDirectories (h : fs.EndsAt p outer last slashes)
    (hp : p.text.isEmpty = false) (hfree : fs.occupant? (String.ofList last :: outer) = none) :
    ∃ fs', fs.makeDirectories p = (.ok (), fs') ∧
      fs.IsPut (String.ofList last :: outer) .directory fs' := by
  obtain ⟨fs', hmade, hput⟩ := h.exists_makeDirectory hfree
  have hensure : fs.ensureDirectory p = (.ok (), fs') := by
    rw [ensureDirectory, hmade]
    simp [hp]
  exact ⟨fs', makeDirectories_of_ensureDirectory hensure, hput⟩

/-- **Asking for a directory that is there changes nothing.** -/
theorem makeDirectories_of_isDirectory (h : fs.isDirectory p = true) :
    fs.makeDirectories p = (.ok (), fs) :=
  makeDirectories_of_ensureDirectory (ensureDirectory_of_isDirectory h)

end FileSystem

end ConfigDocs
