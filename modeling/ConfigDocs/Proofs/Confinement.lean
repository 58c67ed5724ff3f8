import ConfigDocs.Proofs.Forest
import ConfigDocs.Proofs.PathComponents
import ConfigDocs.Proofs.Replay

/-!
# A pass stays in its directory

Where the files of a pass are named after types, they are to go into one directory: each under the
name of a file, and no two under the same path.  That is so if the names of the types have no slash
in them (`Project.planOn_liesIn`).  With the namespaces in the file names they may have slashes as
well, because then everything that is neither a letter nor a numeral becomes a hyphen.

Without them the name of a type is taken as it is.  A slash in it makes more than one piece of the
path, and the type `../Config` is written to the directory next to the one that was asked for
(`Project.not_liesIn_climber`).

A name that is claimed is its base, perhaps a number, and an extension, so there is a slash in it
only if there is one in the base, and it is too long to be a step (`Ledger.isFileName_freeName`).
Names that differ make paths that differ, because a file name is a component of the path it is put
behind.
-/

set_option autoImplicit false

namespace ConfigDocs

/-! ## Names that are claimed -/

namespace Ledger

theorem length_le_candidate (base ext : String) (k : Nat) :
    ext.toList.length ≤ (candidate base ext k).toList.length := by
  cases k with
  | zero =>
    rw [candidate, String.toList_append, List.length_append]
    exact Nat.le_add_left ..
  | succ k =>
    rw [candidate, String.toList_append, List.length_append]
    exact Nat.le_add_left ..

/-- **A name that is claimed is the name of a file**, if there is no slash in its base. -/
theorem isFileName_freeName (ledger : Ledger) {base : String} (hbase : '/' ∉ base.toList)
    (format : Format) : Path.IsFileName (ledger.freeName base format.extension).toList := by
  have hext : '/' ∉ format.extension.toList ∧ 3 ≤ format.extension.toList.length := by
    cases format <;> decide
  have hlong : 3 ≤ (ledger.freeName base format.extension).toList.length :=
    Nat.le_trans hext.2 (length_le_candidate base _ _)
  refine ⟨notMem_candidate (by decide) (by decide) hbase hext.1 _, ?_, ?_, ?_⟩
  all_goals
    intro hname
    rw [hname] at hlong
    exact absurd hlong (by decide)

end Ledger

namespace Catalog

theorem slash_notMem_baseFileName {t : TypeDecl} {qualified : Bool}
    (h : qualified = true ∨ '/' ∉ t.name.toList) : '/' ∉ (baseFileName t qualified).toList := by
  cases qualified with
  | false => exact h.resolve_left Bool.false_ne_true
  | true => exact notMem_baseFileName_qualified (by decide) (by decide) t

/-- A pass over a root names a file after a type: after the root itself, and after everything that
can be reached from it if each type has a file of its own. -/
def NamesFileAfter (catalog : Catalog) (root : TypeDecl) (layout : Layout) (t : TypeDecl) : Prop :=
  t = root ∨ layout = .separate ∧ catalog.Reachable root t

theorem NamesFileAfter.mem_types {catalog : Catalog} {root t : TypeDecl} {layout : Layout}
    (h : catalog.NamesFileAfter root layout t) (hroot : root ∈ catalog.types) :
    t ∈ catalog.types := by
  rcases h with rfl | ⟨-, h⟩
  · exact hroot
  · exact mem_types_of_mem_discovered hroot ((mem_discovered_iff hroot).2 h)

end Catalog

/-! ## Files in a directory -/

/-- Files lie in a directory: each is at that directory joined with the name of a file, and no two
are at the same path. -/
structure LiesIn (home : Path) (files : List RenderedFile) : Prop where
  /-- Every file is in the directory. -/
  inside : ∀ file ∈ files, ∃ name, file.path = home.join ⟨name⟩ ∧ Path.IsFileName name.toList
  /-- Different files have different paths. -/
  distinct : files.Pairwise fun file other ↦ file.path.components ≠ other.path.components

theorem liesIn_of_map_path {home : Path} {files : List RenderedFile} {names : List String}
    (hpaths : files.map RenderedFile.path = names.map fun name ↦ home.join ⟨name⟩)
    (hnames : ∀ name ∈ names, Path.IsFileName name.toList) (hnodup : names.Nodup) :
    LiesIn home files where
  inside file hfile := by
    have hpath : file.path ∈ names.map fun name ↦ home.join ⟨name⟩ := by
      rw [← hpaths]
      exact List.mem_map_of_mem hfile
    obtain ⟨name, hname, heq⟩ := List.mem_map.1 hpath
    exact ⟨name, heq.symm, hnames name hname⟩
  distinct := by
    have hpairs : (names.map fun name ↦ home.join ⟨name⟩).Pairwise fun p q ↦
        p.components ≠ q.components := by
      rw [List.pairwise_map]
      refine List.Pairwise.imp_of_mem ?_ hnodup
      intro name other hname hother hne heq
      rw [Path.components_join home (hnames name hname),
        Path.components_join home (hnames other hother)] at heq
      have hlast := List.append_cancel_left (Prod.mk.inj heq).2
      exact hne (String.toList_inj.1 (List.singleton_inj.1 hlast))
    rw [← hpaths, List.pairwise_map] at hpairs
    exact hpairs

/-- Where the files of a pass go that are named after types: into the target, if that is a
directory, and into its parent, if it is a file and the layout has a file for each type. -/
inductive OutputTarget.GoesInto (layout : Layout) (home : Path) : OutputTarget → Prop
  | directory : GoesInto layout home (.directory home)
  | parent {path : Path} (hlayout : layout = .separate) (hparent : path.parent? = some home) :
      GoesInto layout home (.file path)

theorem OutputTarget.GoesInto.home_eq {layout : Layout} {home : Path} {target : OutputTarget}
    (h : target.GoesInto layout home) : target.home = home := by
  cases h with
  | directory => rfl
  | parent hlayout hparent => rw [OutputTarget.home, hparent, Option.getD_some]

namespace Project

/-- Pages with names of their own go to files of these names. -/
theorem map_path_renderPages {target : OutputTarget} {options : PassOptions} {ledger : Ledger}
    {pages : List Page} {names : List String} (h : pages.map Page.fileName = names.map some) :
    (renderPages target options ledger pages).map RenderedFile.path =
      names.map fun name ↦ target.home.join ⟨name⟩ := by
  induction pages generalizing names ledger with
  | nil =>
    rw [List.map_nil, eq_comm, List.map_eq_nil_iff] at h
    rw [h]
    rfl
  | cons page pages ih =>
    obtain ⟨name, rest, rfl, hname, hrest⟩ := List.map_eq_cons_iff.1 h.symm
    rw [renderPages, List.map_cons, List.map_cons, ih hrest.symm]
    simp only [pagePath, ← hname]

section Plans

variable {project : Project} {root : TypeDecl} {options : PassOptions} {target : OutputTarget}
  {home : Path}

theorem filesFor_inline_liesIn (hlayout : options.layout = .inline)
    (h : '/' ∉ (Catalog.baseFileName root options.includeNamespaces).toList) :
    LiesIn home (project.filesFor root options (.directory home)) := by
  have hfiles : (project.filesFor root options (.directory home)).map RenderedFile.path =
      [Ledger.empty.freeName (Catalog.baseFileName root options.includeNamespaces)
        options.format.extension].map fun name ↦ home.join ⟨name⟩ := by
    rw [filesFor, Catalog.pages, hlayout]
    rfl
  refine liesIn_of_map_path hfiles ?_ (List.nodup_singleton _)
  rw [List.forall_mem_singleton]
  exact Ledger.empty.isFileName_freeName h options.format

theorem filesFor_separate_liesIn (hlayout : options.layout = .separate)
    (h : ∀ t ∈ project.catalog.discovered root,
      '/' ∉ (Catalog.baseFileName t options.includeNamespaces).toList) :
    LiesIn target.home (project.filesFor root options target) := by
  have hpages : project.catalog.pages root options .empty =
      project.catalog.separatePages root options .empty := by
    rw [Catalog.pages, hlayout]
  have hfiles : (project.filesFor root options target).map RenderedFile.path =
      ((project.catalog.pageNames root options .empty).map Prod.snd).map fun name ↦
        target.home.join ⟨name⟩ := by
    rw [filesFor, hpages, Catalog.separatePages_eq]
    exact map_path_renderPages Catalog.map_fileName_pagesOf
  have hnames : ∀ entry ∈ project.catalog.pageNames root options .empty,
      Path.IsFileName entry.2.toList :=
    Catalog.forall_mem_claimNames (P := fun name ↦ Path.IsFileName name.toList)
      (fun t ht ledger ↦ ledger.isFileName_freeName (h t ht) _) .empty
  refine liesIn_of_map_path hfiles ?_ (Catalog.naming_pageNames root options .empty).values
  intro name hname
  obtain ⟨entry, hentry, rfl⟩ := List.mem_map.1 hname
  exact hnames entry hentry

end Plans

/-- **A pass stays in its directory**, if the names of the types after which it names files have no
slash in them, or namespaces are part of the file names: its files lie in the directory they go
into. -/
theorem planOn_liesIn (project : Project) (fs : FileSystem) {root : TypeDecl}
    (hroot : root ∈ project.catalog.types) (options : PassOptions) {home : Path}
    (hhome : (project.targetOn options fs).GoesInto options.layout home)
    (hnames : options.includeNamespaces = true ∨
      ∀ t, project.catalog.NamesFileAfter root options.layout t → '/' ∉ t.name.toList) :
    LiesIn home (project.planOn root options fs).files := by
  have hbase : ∀ t, project.catalog.NamesFileAfter root options.layout t →
      '/' ∉ (Catalog.baseFileName t options.includeNamespaces).toList :=
    fun t ht ↦ Catalog.slash_notMem_baseFileName (hnames.imp_right fun h ↦ h t ht)
  show LiesIn home (project.filesFor root options (project.targetOn options fs))
  cases hlayout : options.layout with
  | inline =>
    rw [hlayout] at hhome
    cases htarget : project.targetOn options fs with
    | directory path =>
      rw [htarget] at hhome
      cases hhome
      exact filesFor_inline_liesIn hlayout (hbase root (.inl rfl))
    | file path =>
      rw [htarget] at hhome
      cases hhome with
      | parent hseparate => cases hseparate
  | separate =>
    rw [← hhome.home_eq]
    refine filesFor_separate_liesIn hlayout fun t ht ↦ hbase t (.inr ⟨hlayout, ?_⟩)
    exact (Catalog.mem_discovered_iff hroot).1 ht

/-- The project of servers and pools in a directory. -/
def circleSite : Project where
  catalog := Catalog.circle
  directory := ⟨"site"⟩

/-- The settings of a pass that asks for one file, with a layout that makes several. -/
def indexPass : PassOptions :=
  ⟨.html, "docs/index.html", .separate, false⟩

/-- The pages of a server and its pool, which are asked for as one file, go into its directory. -/
theorem planOn_liesIn_circle :
    Catalog.server ∈ circleSite.catalog.types ∧
      (circleSite.targetOn indexPass .empty).GoesInto .separate ⟨"site/docs"⟩ ∧
      (∀ t, Catalog.circle.NamesFileAfter Catalog.server .separate t → '/' ∉ t.name.toList) ∧
      LiesIn ⟨"site/docs"⟩ (circleSite.planOn Catalog.server indexPass .empty).files := by
  have hroot : Catalog.server ∈ circleSite.catalog.types := List.mem_cons_self ..
  have htarget : circleSite.targetOn indexPass .empty = .file ⟨"site/docs/index.html"⟩ := by
    decide
  have hhome : (circleSite.targetOn indexPass .empty).GoesInto .separate ⟨"site/docs"⟩ := by
    rw [htarget]
    exact .parent rfl (by decide)
  have hnames : ∀ t, Catalog.circle.NamesFileAfter Catalog.server .separate t →
      '/' ∉ t.name.toList := by
    intro t ht
    have hplain : ∀ t ∈ Catalog.circle.types, '/' ∉ t.name.toList := by decide
    exact hplain t (ht.mem_types hroot)
  exact ⟨hroot, hhome, hnames, planOn_liesIn _ _ hroot indexPass hhome (.inr hnames)⟩

/-! ## A name that leads out of the directory -/

/-- A type whose name leads out of the directory in which it is to be documented. -/
def climber : TypeDecl :=
  { Catalog.plainClass "../Config" [] with
    attributes := [⟨"Documentation", [.integer 1, .text "docs/"]⟩] }

/-- The project of that type. -/
def climbing : Project where
  catalog :=
    { types := [climber]
      reserved := defaultReserved
      distinct := by decide }

/-- The settings of its one pass. -/
def climbingPass : PassOptions :=
  ⟨.markdown, "docs/", .inline, false⟩

/-- The documentation of a type whose name leads out of the directory goes out of it. -/
theorem not_liesIn_climber :
    passes climber = [climbingPass] ∧
      (climbing.targetOn climbingPass .empty).GoesInto climbingPass.layout ⟨"docs/"⟩ ∧
      ¬LiesIn ⟨"docs/"⟩ (climbing.planOn climber climbingPass .empty).files := by
  have htarget : climbing.targetOn climbingPass .empty = .directory ⟨"docs/"⟩ := by decide
  have hpaths : (climbing.planOn climber climbingPass .empty).files.map RenderedFile.path =
      [⟨"docs/../Config.md"⟩] := by decide
  refine ⟨by decide, htarget ▸ .directory, fun h ↦ ?_⟩
  obtain ⟨file, hfiles, hpath⟩ := List.map_eq_singleton_iff.1 hpaths
  obtain ⟨name, hjoin, hname⟩ := h.inside file (hfiles ▸ List.mem_singleton_self file)
  -- what follows the directory in the path is the name, and it begins with a step upwards
  have hlist := Path.toList_join ⟨"docs/"⟩ hname
  rw [← hjoin, hpath, if_pos (.inr (by decide))] at hlist
  have hparts : "docs/".toList ++ "../Config.md".toList = "docs/".toList ++ name.toList := hlist
  have hslash : '/' ∈ "../Config.md".toList := by decide
  rw [List.append_cancel_left hparts] at hslash
  exact hname.slash hslash

end Project

end ConfigDocs
