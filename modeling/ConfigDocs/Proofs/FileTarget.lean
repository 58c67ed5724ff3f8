import ConfigDocs.Proofs.Confinement
import ConfigDocs.Proofs.PathParents
import ConfigDocs.Proofs.RequestedTarget

/-!
# A file target is in its home

A request is taken for a file only if the path it leads to has an extension, and that says a good
deal about the path.  An extension belongs to a name, so there is a last name, and something
precedes the last full stop in it (`Path.stemOf_of_extensionOf?`).  Where there is a last name there
is a parent (`Path.exists_parent_of_fileName?`).  So a path with an extension has all the parts of
the path of a file, which are a directory, a stem and an extension, and these make it up
(`Path.HasParts`).

The home of a file target is therefore always its parent, and the empty path never stands in for it
(`OutputTarget.resolve_eq_file_iff`).  Where a file is asked for and there is one for each type,
they go into that directory (`Project.goesInto_iff_of_separate`).
-/

set_option autoImplicit false

namespace ConfigDocs

namespace Path

open ConfigDocs.Text (segments segments_intercalate intercalate_segments intercalate_append
  not_mem_of_mem_segments)

/-! ## Stems and extensions -/

/-- The stem of a name: what precedes its last full stop, if anything does, and otherwise the whole
name. -/
def stemOf (name : List Char) : List Char :=
  match (segments '.' name).reverse with
  | _ :: before => if before = [] ∨ before = [[]] then name else ['.'].intercalate before.reverse
  | [] => name

/-- The stem of the last name of a path. -/
def fileStem? (p : Path) : Option (List Char) :=
  p.fileName?.map stemOf

/-- The extension of a name is the last of the pieces between its full stops, and the stem is made
of the others, which are more than one empty piece. -/
theorem exists_segments_of_extensionOf? {name extension : List Char}
    (h : extensionOf? name = some extension) :
    ∃ before, segments '.' name = before ++ [extension] ∧ before ≠ [] ∧ before ≠ [[]] ∧
      stemOf name = ['.'].intercalate before := by
  rw [extensionOf?] at h
  split at h
  · rename_i last before hpieces
    split at h
    · cases h
    · rename_i hbefore
      obtain rfl := Option.some.inj h
      have hstem : stemOf name = ['.'].intercalate before.reverse := by
        rw [stemOf, hpieces]
        exact if_neg hbefore
      obtain ⟨hnil, hempty⟩ := not_or.1 hbefore
      refine ⟨before.reverse, ?_, List.reverse_ne_nil_iff.2 hnil, ?_, hstem⟩
      · rw [← List.reverse_inj, hpieces, List.reverse_append, List.reverse_reverse]
        rfl
      · rw [Ne, List.reverse_eq_iff]
        exact hempty
  · cases h

/-- **A name with an extension is its stem and the extension**, with a full stop between them.  The
stem is not empty, and there is no full stop in the extension. -/
theorem stemOf_of_extensionOf? {name extension : List Char}
    (h : extensionOf? name = some extension) :
    name = stemOf name ++ '.' :: extension ∧ stemOf name ≠ [] ∧ '.' ∉ extension := by
  obtain ⟨before, hsegments, hnil, hempty, hstem⟩ := exists_segments_of_extensionOf? h
  have hdot : ∀ piece ∈ before ++ [extension], '.' ∉ piece :=
    fun piece hpiece ↦ not_mem_of_mem_segments (hsegments ▸ hpiece)
  rw [List.forall_mem_append, List.forall_mem_singleton] at hdot
  refine ⟨?_, ?_, hdot.2⟩
  · conv_lhs => rw [← intercalate_segments '.' name, hsegments]
    rw [intercalate_append hnil (List.cons_ne_nil extension []), List.intercalate_singleton, hstem]
  · -- an empty stem would be cut into a single empty piece
    intro hstemNil
    have hpieces := segments_intercalate hnil hdot.1
    rw [← hstem, hstemNil] at hpieces
    exact hempty hpieces.symm

/-- A path has the parts of the path of a file: the directory that the file is in, and the stem and
the extension of its name. -/
structure HasParts (p directory : Path) (stem extension : List Char) : Prop where
  /-- The stem and the extension, with a full stop between them, are its last name. -/
  fileName?_eq : p.fileName? = some (stem ++ '.' :: extension)
  /-- The stem is that of its last name. -/
  fileStem?_eq : p.fileStem? = some stem
  /-- The stem is not empty. -/
  stem_ne_nil : stem ≠ []
  /-- The extension is that of its last name. -/
  extension?_eq : p.extension? = some extension
  /-- There is no full stop in the extension. -/
  dot_notMem_extension : '.' ∉ extension
  /-- The directory is its parent. -/
  parent?_eq : p.parent? = some directory
  /-- In the directory, the last name leads to the same path. -/
  components_join : (directory.join ⟨String.ofList (stem ++ '.' :: extension)⟩).components =
    p.components

/-- **A path with an extension has all the parts** of the path of a file. -/
theorem exists_hasParts {p : Path} {extension : List Char} (h : p.extension? = some extension) :
    ∃ directory stem, p.HasParts directory stem extension := by
  obtain ⟨name, hname, hextension⟩ := Option.bind_eq_some_iff.1 h
  obtain ⟨parent, hparent, -⟩ := exists_parent_of_fileName? hname
  obtain ⟨hparts, hstem, hdot⟩ := stemOf_of_extensionOf? hextension
  refine ⟨parent, stemOf name, ?_, ?_, hstem, h, hdot, hparent, ?_⟩
  · rw [hname, ← hparts]
  · rw [fileStem?, hname, Option.map_some]
  · rw [← hparts]
    exact components_join_parent hname hparent

end Path

namespace OutputTarget

section Requests

variable {requested : String} {projectDirectory p : Path}

/-- Its home is the directory among the parts of a file target. -/
theorem exists_hasParts_home_iff :
    (∃ stem extension, p.HasParts (OutputTarget.file p).home stem extension) ↔
      ∃ extension, p.extension? = some extension := by
  constructor
  · rintro ⟨stem, extension, hparts⟩
    exact ⟨extension, hparts.extension?_eq⟩
  · rintro ⟨extension, hextension⟩
    obtain ⟨directory, stem, hparts⟩ := Path.exists_hasParts hextension
    have hhome : (OutputTarget.file p).home = directory := by
      rw [home, hparts.parent?_eq, Option.getD_some]
    exact ⟨stem, extension, hhome ▸ hparts⟩

/-- **A file target has a parent and a last name with a stem and an extension**, its home is that
parent, and the name in its home is the target again.  A request leads to such a target if its path
is of this kind, unless there is a slash behind the request or a directory at the path. -/
theorem resolve_eq_file_iff (fs : FileSystem) :
    ((resolve requested projectDirectory : StateM FileSystem OutputTarget).run fs).1 = .file p ↔
      (∃ stem extension, p.HasParts (OutputTarget.file p).home stem extension) ∧
        p = requestedPath requested projectDirectory ∧ Path.endsWithSlash ⟨requested⟩ = false ∧
          fs.isDirectory p = false := by
  rw [exists_hasParts_home_iff, run_resolve, ofRequest_eq_file_iff]
  constructor
  · rintro ⟨rfl, hslash, hoccupied, hextension⟩
    exact ⟨hextension, rfl, hslash, hoccupied⟩
  · rintro ⟨hextension, rfl, hslash, hoccupied⟩
    exact ⟨rfl, hslash, hoccupied, hextension⟩

/-- The home of a file target whose last name has idle pieces on both sides. -/
example :
    ((resolve "guides//./config.v2.md/." ⟨"site"⟩ : StateM FileSystem OutputTarget).run .empty).1 =
        .file ⟨"site/guides//./config.v2.md/."⟩ ∧
      (file ⟨"site/guides//./config.v2.md/."⟩).home = ⟨"site/guides"⟩ := by
  decide

end Requests

end OutputTarget

namespace Project

/-- Where each type has a file of its own, the files of a pass go into the home of its target. -/
theorem goesInto_iff_of_separate {project : Project} {options : PassOptions} {fs : FileSystem}
    {home : Path} (hlayout : options.layout = .separate) :
    (project.targetOn options fs).GoesInto options.layout home ↔
      (project.targetOn options fs).home = home := by
  constructor
  · exact OutputTarget.GoesInto.home_eq
  · rintro rfl
    cases htarget : project.targetOn options fs with
    | directory path => exact .directory
    | file path =>
      have hextension := (OutputTarget.ofRequest_eq_file_iff.1 htarget).2.2.2
      obtain ⟨stem, extension, hparts⟩ := OutputTarget.exists_hasParts_home_iff.2 hextension
      exact .parent hlayout hparts.parent?_eq

end Project

end ConfigDocs
