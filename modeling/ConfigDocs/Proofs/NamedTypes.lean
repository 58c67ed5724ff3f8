import ConfigDocs.Proofs.Replay
import ConfigDocs.Proofs.TypeGrammar
import ConfigDocs.Proofs.Walk

/-!
# Generating type by type

The types that ask for documentation are listed by their full names, and a single type is generated
by name.  These belong together: a full name leads back to the type that was listed, since no two
types share one, so a run over all types is a run over the listed names in order.

Only a name that begins with the marker `global::` would be in the way, because the marker is
dropped before a name is looked up.  The marker is no part of a name, so no type of a program has a
name of that kind.
-/

set_option autoImplicit false

namespace ConfigDocs

theorem Text.unmarked_of_not_isPrefix {name : String} (h : ¬globalMarker <+: name.toList) :
    unmarked name = name := by
  rcases eq_or_eq_of_withoutGlobal name.toList with hs | hs
  · rw [unmarked, ← hs, String.ofList_toList]
  · exact absurd ⟨_, hs.symm⟩ h

/-- **A full name leads back to its type.** -/
theorem Catalog.find_fullName {catalog : Catalog} {t : TypeDecl} (ht : t ∈ catalog.types)
    (h : ¬Text.globalMarker <+: t.fullName.toList) : catalog.find t.fullName = some t := by
  have hfull : catalog.withFullName t.fullName = some t := withFullName_eq_some_iff.2 ⟨ht, rfl⟩
  rw [find, lookup_eq_or, Text.unmarked_of_not_isPrefix h, hfull, Option.some_or]

namespace Project

variable {project : Project}

theorem generateType_fullName {t : TypeDecl} (ht : t ∈ project.catalog.types)
    (h : ¬Text.globalMarker <+: t.fullName.toList) (fs : FileSystem) :
    fs.run (project.generateType t.fullName) =
      (.ok (fs.run (project.generateFor t)).1, (fs.run (project.generateFor t)).2) := by
  have hfind : project.find t.fullName = .ok t := by
    rw [find, Catalog.find_fullName ht h]
  rw [generateType, hfind]
  rfl

/-- A run over types is a run over their full names. -/
theorem mapM_generateType_fullName {types : List TypeDecl}
    (htypes : ∀ t ∈ types, t ∈ project.catalog.types)
    (h : ∀ t ∈ types, ¬Text.globalMarker <+: t.fullName.toList) (fs : FileSystem) :
    ∃ reports : List Report,
      fs.run ((types.map TypeDecl.fullName).mapM project.generateType) =
        (reports.map .ok, (fs.run (project.generateEach types)).2) ∧
      (fs.run (project.generateEach types)).1 = .concat reports := by
  induction types generalizing fs with
  | nil => exact ⟨[], rfl, rfl⟩
  | cons t types ih =>
    rw [List.forall_mem_cons] at htypes h
    obtain ⟨reports, hnames, hreport⟩ := ih htypes.2 h.2 (fs.run (project.generateFor t)).2
    have hrun : fs.run (project.generateEach (t :: types)) =
        ((fs.run (project.generateFor t)).1 ++
            ((fs.run (project.generateFor t)).2.run (project.generateEach types)).1,
          ((fs.run (project.generateFor t)).2.run (project.generateEach types)).2) := rfl
    refine ⟨(fs.run (project.generateFor t)).1 :: reports, ?_, ?_⟩
    · rw [List.map_cons, List.mapM_cons, FileSystem.run_bind, generateType_fullName htypes.1 h.1]
      dsimp only
      rw [FileSystem.run_bind, hnames, hrun]
      rfl
    · rw [hrun, hreport, Report.concat_cons]

/-- **A run over all types is a run over the listed names**, one after the other: every listed name
is known, and report and disk are the same in the end. -/
theorem mapM_generateType_documentedNames (project : Project) (fs : FileSystem)
    (h : ∀ t ∈ project.catalog.types, ¬Text.globalMarker <+: t.fullName.toList) :
    ∃ reports : List Report,
      fs.run (project.documentedNames.mapM project.generateType) =
        (reports.map .ok, (fs.run project.generateAll).2) ∧
      (fs.run project.generateAll).1 = .concat reports := by
  have htypes : ∀ t ∈ project.catalog.documentedTypes, t ∈ project.catalog.types :=
    fun _ ht ↦ (List.mem_filter.1 ht).1
  exact mapM_generateType_fullName htypes (fun t ht ↦ h t (htypes t ht)) fs

end Project

/-! ## Types that share a simple name -/

/-- A type of this namespace that goes by the name of `Config` and asks for a table in `docs`. -/
def namesake (space summary : String) : TypeDecl :=
  { Catalog.plainClass "Config" [] with
    space
    documentation := some ("<summary>" ++ summary ++ "</summary>")
    attributes := [⟨"Documentation", [.integer 1, .text "docs/"]⟩] }

/-- Two types that share their simple name. -/
def namesakes : Project where
  catalog :=
    { types := [namesake "Client" "How to call.", namesake "Server" "How to answer."]
      reserved := defaultReserved
      distinct := by decide }

/-- Neither type is taken for the other when it is generated by name. -/
theorem Project.mapM_generateType_documentedNames_namesakes :
    (∀ t ∈ namesakes.catalog.types, ¬Text.globalMarker <+: t.fullName.toList) ∧
      ∃ reports : List Report,
        FileSystem.empty.run (["Client.Config", "Server.Config"].mapM namesakes.generateType) =
          (reports.map .ok, (FileSystem.empty.run namesakes.generateAll).2) ∧
        (FileSystem.empty.run namesakes.generateAll).1 = .concat reports := by
  have hmarks : ∀ t ∈ namesakes.catalog.types, ¬Text.globalMarker <+: t.fullName.toList := by
    decide
  have hnames : namesakes.documentedNames = ["Client.Config", "Server.Config"] := by decide
  exact ⟨hmarks, hnames ▸ namesakes.mapM_generateType_documentedNames .empty hmarks⟩

end ConfigDocs
