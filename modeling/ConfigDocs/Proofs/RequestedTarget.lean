import ConfigDocs.Generation.Target
import ConfigDocs.Proofs.PathComponents

/-!
# What a request means

A request is to mean a directory if it ends with a slash, if it has no extension, or if there is a
directory where it leads, and a file otherwise (`OutputTarget.MeetsRequest`).  The target is found
with the extension of the *path that the request leads to*, which is another path: the request
behind the directory of the project.

The two have the same last name, and so the same extension, whenever the request has a component of
its own, which is then the last one of both (`Path.extension?_join`).  A request without one, such
as a full stop or nothing at all, stands for the directory of the project, and then it is that
directory's name whose extension is looked at.  `OutputTarget.resolve_meetsRequest_iff` says that
this is the only way in which a request is misunderstood, and
`OutputTarget.not_meetsRequest_here` that it can be: in a project `site.v2` that is not there yet,
a full stop is taken for a file.
-/

set_option autoImplicit false

namespace ConfigDocs

namespace Path

/-- A path leads nowhere from where it starts: it is relative and has no components. -/
def isHere (p : Path) : Bool :=
  !p.isAbsolute && p.components.2.isEmpty

theorem isHere_iff {p : Path} : p.isHere = true ↔ p.isAbsolute = false ∧ p.components.2 = [] := by
  rw [isHere, Bool.and_eq_true, Bool.not_eq_true', List.isEmpty_iff]

theorem fileName?_of_isHere {p : Path} (h : p.isHere = true) : p.fileName? = none := by
  rw [fileName?_eq, (isHere_iff.1 h).2]
  rfl

theorem fileName?_join_of_isHere (base : Path) {p : Path} (h : p.isHere = true) :
    (base.join p).fileName? = base.fileName? := by
  obtain ⟨hrelative, hcomponents⟩ := isHere_iff.1 h
  rw [fileName?_eq, components_join_relative base hrelative, hcomponents, List.append_nil,
    ← fileName?_eq]

/-- A path that leads anywhere has its last name also as seen from another one. -/
theorem fileName?_join (base : Path) {p : Path} (h : p.isHere = false) :
    (base.join p).fileName? = p.fileName? := by
  cases habsolute : p.isAbsolute with
  | true => rw [join, if_pos habsolute]
  | false =>
    have hcomponents : p.components.2 ≠ [] := by
      intro hnil
      rw [isHere_iff.2 ⟨habsolute, hnil⟩] at h
      cases h
    obtain ⟨before, last, hlast⟩ := List.eq_nil_or_concat p.components.2 |>.resolve_left hcomponents
    have hends : (base.components.2 ++ p.components.2).getLast? = p.components.2.getLast? := by
      rw [hlast, List.concat_eq_append, ← List.append_assoc, List.getLast?_concat,
        List.getLast?_concat]
    rw [fileName?_eq, components_join_relative base habsolute, hends, ← fileName?_eq]

/-- **The extension of a joined path** is that of the path that is joined, if this leads
anywhere. -/
theorem extension?_join (base p : Path) :
    (base.join p).extension? = if p.isHere then base.extension? else p.extension? := by
  split
  · rename_i hhere
    rw [extension?, fileName?_join_of_isHere base hhere, extension?]
  · rename_i hhere
    rw [extension?, fileName?_join base (Bool.not_eq_true _ ▸ hhere), extension?]

theorem extension?_of_isHere {p : Path} (h : p.isHere = true) : p.extension? = none := by
  rw [extension?, fileName?_of_isHere h]
  rfl

end Path

namespace OutputTarget

/-- A target is what a request asks for on a file system. -/
structure MeetsRequest (fs : FileSystem) (requested : String) (projectDirectory : Path)
    (target : OutputTarget) : Prop where
  /-- Its path is the request if that is absolute, and otherwise the request as seen from the
  directory of the project. -/
  path_eq : target.path =
    if Path.isAbsolute ⟨requested⟩ then ⟨requested⟩ else projectDirectory.join ⟨requested⟩
  /-- It is a directory if the request ends with a slash, if the request has no extension, or if
  there is a directory at the path; and it is a file otherwise. -/
  directory_iff : target = .directory target.path ↔
    Path.endsWithSlash ⟨requested⟩ = true ∨ Path.extension? ⟨requested⟩ = none ∨
      fs.isDirectory target.path = true

section Requests

variable (requested : String) (projectDirectory : Path)

theorem requestedPath_eq :
    requestedPath requested projectDirectory =
      if Path.isAbsolute ⟨requested⟩ then ⟨requested⟩ else projectDirectory.join ⟨requested⟩ := by
  rw [requestedPath]
  split
  · rename_i habsolute
    rw [Path.join, if_pos habsolute]
  · rfl

theorem extension?_requestedPath :
    (requestedPath requested projectDirectory).extension? =
      if Path.isHere ⟨requested⟩ then projectDirectory.extension?
      else Path.extension? ⟨requested⟩ :=
  Path.extension?_join projectDirectory ⟨requested⟩

/-- A target is a directory by the extension of the path it has. -/
theorem ofRequest_eq_directory_iff (occupied : Bool) :
    ofRequest requested projectDirectory occupied =
        .directory (requestedPath requested projectDirectory) ↔
      Path.endsWithSlash ⟨requested⟩ = true ∨
        (requestedPath requested projectDirectory).extension? = none ∨ occupied = true := by
  simp only [ofRequest]
  split
  · rename_i hdirectory
    simpa [or_assoc] using hdirectory
  · rename_i hfile
    simpa [or_assoc] using hfile

variable (fs : FileSystem)

/-- The target of a request, as the file system has it. -/
theorem run_resolve :
    (resolve requested projectDirectory : StateM FileSystem OutputTarget).run fs =
      (ofRequest requested projectDirectory
        (fs.isDirectory (requestedPath requested projectDirectory)), fs) := by
  cases hnames : namesDirectory requested projectDirectory with
  | true =>
    rw [resolve_of_namesDirectory hnames]
    rfl
  | false =>
    rw [resolve_of_namesDirectory_eq_false hnames]
    rfl

/-- The target is what is asked for if it makes no difference which extension is looked at. -/
theorem meetsRequest_ofRequest_iff :
    (ofRequest requested projectDirectory
        (fs.isDirectory (requestedPath requested projectDirectory))).MeetsRequest fs requested
        projectDirectory ↔
      (Path.endsWithSlash ⟨requested⟩ = true ∨
          (requestedPath requested projectDirectory).extension? = none ∨
            fs.isDirectory (requestedPath requested projectDirectory) = true ↔
        Path.endsWithSlash ⟨requested⟩ = true ∨ Path.extension? ⟨requested⟩ = none ∨
          fs.isDirectory (requestedPath requested projectDirectory) = true) := by
  rw [← ofRequest_eq_directory_iff]
  constructor
  · intro h
    have hkind := h.directory_iff
    rwa [path_ofRequest] at hkind
  · intro h
    refine ⟨?_, ?_⟩
    · rw [path_ofRequest, requestedPath_eq]
    · rwa [path_ofRequest]

/-- **A request is understood**, unless it leads nowhere from the directory of the project, that
directory has an extension, and neither a slash behind the request nor the file system says that it
is a directory. -/
theorem resolve_meetsRequest_iff :
    ∃ target, (resolve requested projectDirectory : StateM FileSystem OutputTarget).run fs =
        (target, fs) ∧
      (target.MeetsRequest fs requested projectDirectory ↔
        (Path.isHere ⟨requested⟩ = true → Path.endsWithSlash ⟨requested⟩ = true ∨
          projectDirectory.extension? = none ∨
            fs.isDirectory (requestedPath requested projectDirectory) = true)) := by
  refine ⟨_, run_resolve requested projectDirectory fs, ?_⟩
  rw [meetsRequest_ofRequest_iff, extension?_requestedPath]
  cases hhere : Path.isHere ⟨requested⟩ with
  | false => simp
  | true =>
    -- the request itself has no extension, so a directory is asked for
    simp [Path.extension?_of_isHere hhere]

end Requests

/-- In a project whose directory is not there yet and has a name like `site.v2`, a full stop is
taken for a file. -/
theorem not_meetsRequest_here :
    (resolve "." ⟨"site.v2"⟩ : StateM FileSystem OutputTarget).run .empty =
        (.file ⟨"site.v2/."⟩, .empty) ∧
      ¬(OutputTarget.file ⟨"site.v2/."⟩).MeetsRequest .empty "." ⟨"site.v2"⟩ := by
  refine ⟨rfl, fun h ↦ ?_⟩
  have hdirectory := h.directory_iff.2 (.inr (.inl (by decide)))
  cases hdirectory

end OutputTarget

end ConfigDocs
