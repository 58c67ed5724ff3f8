import ConfigDocs.Disk.FileSystem

/-!
# Where a pass writes to

The settings of a pass request an output path, which may mean a directory, to be filled with files
that are named after their types, or one particular file.  A relative request starts from the
directory of the project.

Nothing in a request says outright which of the two it is.  It is taken for a directory if it ends
with a slash, if the path it leads to has no extension, or if there is a directory at that path;
anything else is a file.  The disk is asked only if the request leaves it open.
-/

set_option autoImplicit false

namespace ConfigDocs

/-- Where a pass writes to. -/
inductive OutputTarget where
  /-- Into a directory, with files named after their types. -/
  | directory (path : Path)
  /-- Into one particular file. -/
  | file (path : Path)
deriving DecidableEq, Repr

namespace OutputTarget

/-- The path of a target. -/
def path : OutputTarget → Path
  | directory p => p
  | file p => p

/-- The directory the output ends up in. -/
def home : OutputTarget → Path
  | directory p => p
  | file p => p.parent?.getD ⟨""⟩

/-- The path a request leads to from the directory of the project. -/
def requestedPath (requested : String) (projectDirectory : Path) : Path :=
  projectDirectory.join ⟨requested⟩

/-- A request means a directory whatever is on the disk. -/
def namesDirectory (requested : String) (projectDirectory : Path) : Bool :=
  Path.endsWithSlash ⟨requested⟩ || (requestedPath requested projectDirectory).extension?.isNone

/-- The target of a request, where `occupied` says whether there is a directory at the path it
leads to. -/
def ofRequest (requested : String) (projectDirectory : Path) (occupied : Bool) : OutputTarget :=
  let resolved := requestedPath requested projectDirectory
  if Path.endsWithSlash ⟨requested⟩ || resolved.extension?.isNone || occupied then
    directory resolved
  else file resolved

/-- Whether a request looks like one for a directory. -/
def looksLikeDirectory {m : Type → Type} [Monad m] [Disk m] (requested : String)
    (projectDirectory : Path) : m Bool :=
  if namesDirectory requested projectDirectory then pure true
  else Disk.isDirectory (requestedPath requested projectDirectory)

/-- The target of a request, as the disk has it. -/
def resolve {m : Type → Type} [Monad m] [Disk m] (requested : String) (projectDirectory : Path) :
    m OutputTarget := do
  let resolved := requestedPath requested projectDirectory
  if ← looksLikeDirectory requested projectDirectory then return directory resolved
  else return file resolved

@[simp] theorem path_ofRequest (requested : String) (projectDirectory : Path) (occupied : Bool) :
    (ofRequest requested projectDirectory occupied).path =
      requestedPath requested projectDirectory := by
  unfold ofRequest
  simp only
  split <;> rfl

section Questions

variable {m : Type → Type} [Monad m] [Disk m] {requested : String} {projectDirectory : Path}

/-- Nothing is asked if the request means a directory anyway. -/
theorem resolve_of_namesDirectory [LawfulMonad m]
    (h : namesDirectory requested projectDirectory = true) (occupied : Bool) :
    resolve requested projectDirectory =
      (pure (ofRequest requested projectDirectory occupied) : m OutputTarget) := by
  have htarget : ofRequest requested projectDirectory occupied =
      directory (requestedPath requested projectDirectory) := by
    rw [namesDirectory] at h
    rw [ofRequest, h, Bool.true_or]
    exact if_pos rfl
  rw [resolve, looksLikeDirectory, if_pos h, pure_bind, if_pos rfl, htarget]

/-- The answer decides if the request leaves it open. -/
theorem resolve_of_namesDirectory_eq_false
    (h : namesDirectory requested projectDirectory = false) :
    resolve requested projectDirectory = (do
      let occupied ← Disk.isDirectory (requestedPath requested projectDirectory)
      return ofRequest requested projectDirectory occupied : m OutputTarget) := by
  rw [resolve, looksLikeDirectory, if_neg (Bool.not_eq_true _ ▸ h)]
  congr 1
  funext occupied
  rw [namesDirectory] at h
  rw [ofRequest, h, Bool.false_or]
  cases occupied <;> rfl

end Questions

/-- A request is taken for a file if nothing says that it means a directory. -/
theorem ofRequest_eq_file_iff {requested : String} {projectDirectory p : Path} {occupied : Bool} :
    ofRequest requested projectDirectory occupied = .file p ↔
      p = requestedPath requested projectDirectory ∧ Path.endsWithSlash ⟨requested⟩ = false ∧
        occupied = false ∧ ∃ extension, p.extension? = some extension := by
  rw [← Option.isSome_iff_exists, ← Option.isNone_eq_false_iff]
  simp only [ofRequest]
  split
  · rename_i hdirectory
    constructor
    · intro h
      cases h
    · rintro ⟨rfl, hslash, rfl, hextension⟩
      rw [hslash, hextension] at hdirectory
      cases hdirectory
  · rename_i hfile
    rw [Bool.not_eq_true, Bool.or_eq_false_iff, Bool.or_eq_false_iff] at hfile
    obtain ⟨⟨hslash, hextension⟩, hoccupied⟩ := hfile
    constructor
    · intro h
      obtain rfl := OutputTarget.file.inj h
      exact ⟨rfl, hslash, hoccupied, hextension⟩
    · rintro ⟨rfl, -⟩
      rfl

end OutputTarget

end ConfigDocs
