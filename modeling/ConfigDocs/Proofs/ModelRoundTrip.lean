import Mathlib.Data.List.Nodup
import ConfigDocs.Loading
import ConfigDocs.Proofs.Walk
import ConfigDocs.Proofs.WrittenForm

/-!
# Model files are read back

A model file that is written as a value and read again is the same model file, whichever dialect the
value is read in: every field of every declaration comes back (`ModelFile.ofData?_toData`).

There is one field for which this is not a matter of the format.  A declared type is written as a
text, and not every reference is what its text is read as; those are that have been read from some
text, whether or not that text could be parsed.  A model file in which all declared types are of
that kind is *legible*, and every model file that was read is.

The proof follows the format.  What writes a structure names its fields and what reads it asks for
the same names in the same order, so one lemma about records (`Data.structure?_record`) serves every
structure, and one about lists (`Data.list?_map`) every list; each reader is then shown to undo its
writer from those it is made of.
-/

set_option autoImplicit false

namespace ConfigDocs

/-! ## Records and lists -/

namespace Data

section Records

variable {fields : List (Option String × Data)} (hkeys : (fields.map Prod.fst).Nodup)

include hkeys

theorem field?_of_mem {name : String} {value : Data} (h : (some name, value) ∈ fields) :
    field? fields name = some value := by
  obtain ⟨field, hfield⟩ : ∃ field, fields.find? (fun f ↦ f.1 == some name) = some field :=
    Option.isSome_iff_exists.1 (List.find?_isSome.2 ⟨_, h, beq_self_eq_true _⟩)
  have hname : field.1 = some name := by
    have hfound := List.find?_some hfield
    exact eq_of_beq hfound
  have heq : field = (some name, value) :=
    List.inj_on_of_nodup_map hkeys (List.mem_of_find?_eq_some hfield) h hname
  rw [field?, hfield, heq, Option.map_some]

theorem atMostOnce_of_nodup (name : String) : atMostOnce fields name = true := by
  have hcount := List.nodup_iff_count_le_one.1 hkeys (some name)
  rw [List.count_eq_countP, List.countP_map, List.countP_eq_length_filter] at hcount
  exact decide_eq_true hcount

end Records

/-- **A record of the fields of a structure, each once and in order, is read as their values.** -/
theorem structure?_record (dialect : Dialect) (fields : List (String × Data))
    (hnames : (fields.map Prod.fst).Nodup) :
    structure? dialect (fields.map Prod.fst) (.record (fields.map fun f ↦ (some f.1, f.2))) =
      some (fields.map fun f ↦ some f.2) := by
  have hkeys : ((fields.map fun f ↦ (some f.1, f.2)).map Prod.fst).Nodup := by
    have hsome := hnames.map fun _ _ ↦ Option.some.inj
    rw [List.map_map] at hsome ⊢
    exact hsome
  have hpassable :
      (fields.map fun f ↦ (some f.1, f.2)).all (isPassable (fields.map Prod.fst)) = true := by
    rw [List.all_map, List.all_eq_true]
    intro field hfield
    have hname : field.1 ∈ fields.map Prod.fst := List.mem_map_of_mem hfield
    exact Bool.or_eq_true_iff.2 (.inl (List.contains_iff_mem.2 hname))
  have honce : (fields.map Prod.fst).all (atMostOnce (fields.map fun f ↦ (some f.1, f.2))) = true :=
    List.all_eq_true.2 fun name _ ↦ atMostOnce_of_nodup hkeys name
  rw [structure?, hpassable, honce, Bool.and_self, if_pos rfl, List.map_map]
  refine congrArg some (List.map_congr_left fun field hfield ↦ ?_)
  exact field?_of_mem hkeys (List.mem_map_of_mem hfield)

theorem list?_map {α : Type} {read : Data → Option α} {write : α → Data} {items : List α}
    (h : ∀ item ∈ items, read (write item) = some item) :
    list? read (.list (items.map write)) = some items := by
  rw [list?]
  induction items with
  | nil => rfl
  | cons item items ih =>
    rw [List.forall_mem_cons] at h
    rw [List.map_cons, List.mapM_cons, h.1, ih h.2]
    rfl

/-- What holds of everything a reader gives holds of the items of a list. -/
theorem forall_mem_of_list? {α : Type} {read : Data → Option α} {P : α → Prop}
    (h : ∀ value item, read value = some item → P item) {value : Data} {items : List α}
    (hitems : list? read value = some items) : ∀ item ∈ items, P item := by
  cases value with
  | list values =>
    rw [list?] at hitems
    induction values generalizing items with
    | nil =>
      cases hitems
      simp
    | cons value values ih =>
      simp only [List.mapM_cons, Option.bind_eq_bind, Option.bind_eq_some_iff, Option.pure_def,
        Option.some_inj] at hitems
      obtain ⟨item, hitem, rest, hrest, rfl⟩ := hitems
      exact List.forall_mem_cons.2 ⟨h value item hitem, ih hrest⟩
  | _ => cases hitems

end Data

namespace ModelFile

open Data

/-! ## Readers undo writers -/

theorem argument?_argumentData (a : Argument) : argument? (argumentData a) = some a := by
  cases a with
  | bool value => rfl
  | integer value =>
    have hrange : Int64.minValue.toInt ≤ value.toInt ∧ value.toInt ≤ Int64.maxValue.toInt :=
      ⟨value.minValue_le_toInt, value.toInt_le⟩
    rw [argumentData, argument?, if_pos hrange, Int64.ofInt_toInt]
  | text value => rfl

theorem optionalText?_optionalTextData (text : Option String) :
    optionalText? (optionalTextData text) = some text := by
  cases text <;> rfl

variable (dialect : Dialect)

theorem choice?_kindName (kind : Kind) :
    choice? dialect kinds (.text (kindName kind)) = some kind := by
  cases kind <;> rfl

theorem choice?_accessibilityName (accessibility : Accessibility) :
    choice? dialect accessibilities (.text (accessibilityName accessibility)) =
      some accessibility := by
  cases accessibility <;> rfl

theorem attribute?_attributeData (a : Attribute) :
    attribute? dialect (attributeData a) = some a := by
  have hnames : attributeFields.Nodup := by decide
  have hfields : structure? dialect attributeFields (attributeData a) = some _ :=
    structure?_record dialect
      [("name", .text a.name), ("arguments", .list (a.arguments.map argumentData))] hnames
  have harguments : list? argument? (.list (a.arguments.map argumentData)) = some a.arguments :=
    list?_map fun argument _ ↦ argument?_argumentData argument
  rw [attribute?, hfields]
  simp only [List.map_cons, List.map_nil, text?, orDefault, harguments]
  rfl

theorem list?_attributeData (attributes : List Attribute) :
    list? (attribute? dialect) (.list (attributes.map attributeData)) = some attributes :=
  list?_map fun a _ ↦ attribute?_attributeData dialect a

theorem property?_propertyData {p : Property} (h : TypeRef.ofText p.type.written = p.type) :
    property? dialect (propertyData p) = some p := by
  have hnames : propertyFields.Nodup := by decide
  have hfields : structure? dialect propertyFields (propertyData p) = some _ :=
    structure?_record dialect
      [("name", .text p.name), ("type", .text p.type.written),
        ("accessibility", .text (accessibilityName p.accessibility)),
        ("attributes", .list (p.attributes.map attributeData)),
        ("documentation", optionalTextData p.documentation),
        ("initializer", optionalTextData p.initializer)] hnames
  rw [property?, hfields]
  simp only [List.map_cons, List.map_nil, text?, orDefault, choice?_accessibilityName,
    list?_attributeData, optionalText?_optionalTextData, Option.bind_eq_bind, Option.bind_some, h]
  rfl

theorem type?_typeData {t : TypeDecl}
    (h : ∀ p ∈ t.properties, TypeRef.ofText p.type.written = p.type) :
    type? dialect (typeData t) = some t := by
  have hnames : typeFields.Nodup := by decide
  have hfields : structure? dialect typeFields (typeData t) = some _ :=
    structure?_record dialect
      [("name", .text t.name), ("namespace", .text t.space), ("kind", .text (kindName t.kind)),
        ("members", .list (t.members.map .text)), ("sequence", .bool t.sequence),
        ("documentation", optionalTextData t.documentation),
        ("attributes", .list (t.attributes.map attributeData)),
        ("properties", .list (t.properties.map propertyData))] hnames
  have hmembers : list? text? (.list (t.members.map .text)) = some t.members :=
    list?_map fun _ _ ↦ rfl
  have hproperties : list? (property? dialect) (.list (t.properties.map propertyData)) =
      some t.properties := list?_map fun p hp ↦ property?_propertyData dialect (h p hp)
  rw [type?, hfields]
  simp only [List.map_cons, List.map_nil, text?, bool?, orDefault, choice?_kindName, hmembers,
    optionalText?_optionalTextData, list?_attributeData, hproperties, Option.bind_eq_bind,
    Option.bind_some]
  rfl

theorem ofData?_of_written {file : ModelFile}
    (h : ∀ t ∈ file.types, ∀ p ∈ t.properties, TypeRef.ofText p.type.written = p.type) :
    ofData? dialect file.toData = some file := by
  have hnames : fileFields.Nodup := by decide
  have hfields : structure? dialect fileFields file.toData = some _ :=
    structure?_record dialect [("types", .list (file.types.map typeData))] hnames
  have htypes : list? (type? dialect) (.list (file.types.map typeData)) = some file.types :=
    list?_map fun t ht ↦ type?_typeData dialect (h t ht)
  rw [ofData?, hfields]
  simp only [List.map_cons, List.map_nil, orDefault, htypes]
  rfl

/-! ## Legible model files -/

/-- Every declared type is what some text stands for. -/
def Legible (file : ModelFile) : Prop :=
  ∀ t ∈ file.types, ∀ p ∈ t.properties, ∃ text, p.type = TypeRef.ofText text

variable {dialect}

/-- The declared type of a property comes from a text. -/
theorem exists_text_of_property? {value : Data} {p : Property}
    (h : property? dialect value = some p) : ∃ text, p.type = TypeRef.ofText text := by
  unfold property? at h
  split at h
  · simp only [Option.bind_eq_bind, Option.bind_eq_some_iff, Option.pure_def, Option.some_inj] at h
    obtain ⟨_, -, text, -, _, -, _, -, _, -, _, -, rfl⟩ := h
    exact ⟨text, rfl⟩
  · cases h

theorem forall_mem_of_orDefault {α : Type} {read : Data → Option α} {P : α → Prop}
    (h : ∀ value item, read value = some item → P item) {value : Option Data} {items : List α}
    (hitems : orDefault [] (list? read) value = some items) : ∀ item ∈ items, P item := by
  cases value with
  | none =>
    cases hitems
    simp
  | some value => exact forall_mem_of_list? h hitems

theorem forall_mem_properties_of_type? {value : Data} {t : TypeDecl}
    (h : type? dialect value = some t) :
    ∀ p ∈ t.properties, ∃ text, p.type = TypeRef.ofText text := by
  unfold type? at h
  split at h
  · simp only [Option.bind_eq_bind, Option.bind_eq_some_iff, Option.pure_def, Option.some_inj] at h
    obtain ⟨_, -, _, -, _, -, _, -, _, -, _, -, _, -, properties, hproperties, rfl⟩ := h
    exact forall_mem_of_orDefault (fun _ _ ↦ exists_text_of_property?) hproperties
  · cases h

theorem legible_of_ofData? {value : Data} {file : ModelFile}
    (h : ofData? dialect value = some file) : file.Legible := by
  unfold ofData? at h
  split at h
  · simp only [Option.bind_eq_bind, Option.bind_eq_some_iff, Option.pure_def, Option.some_inj] at h
    obtain ⟨types, htypes, rfl⟩ := h
    exact forall_mem_of_orDefault (fun _ _ ↦ forall_mem_properties_of_type?) htypes
  · cases h

/-- **A legible model file is read back from the value it is written as**, in either dialect and
with everything in it; and every model file that is read from a text, in either format, is
legible. -/
theorem ofData?_toData (file : ModelFile) :
    (file.Legible → ∀ dialect, ofData? dialect file.toData = some file) ∧
      ∀ format text, ofText? format text = some file → file.Legible := by
  constructor
  · intro h dialect
    refine ofData?_of_written dialect fun t ht p hp ↦ ?_
    obtain ⟨text, htext⟩ := h t ht p hp
    rw [htext]
    exact TypeRef.ofText_written_ofText text
  · intro format text h
    obtain ⟨value, -, hvalue⟩ := Option.bind_eq_some_iff.1 h
    exact legible_of_ofData? hvalue

/-- A file with a property whose type cannot be read, and with attributes whose arguments are of
each kind. -/
def troubled : ModelFile where
  types := [{ Catalog.plainClass "Broken" [
      { Catalog.plainProperty "List" "" with
        type := .unparsed "List<", accessibility := .internal, initializer := some "[]" }] with
    space := "Old"
    kind := .enum
    members := ["On", "Off"]
    sequence := true
    attributes := [⟨"Obsolete", [.integer Int64.minValue, .bool true, .text "true"]⟩] }]

/-- The text that is no type reference comes back as it was, and so do the least integer and the
text that looks like a truth value. -/
theorem ofData?_toData_troubled :
    troubled.Legible ∧ ofData? Json.dialect troubled.toData = some troubled ∧
      ofData? Toml.dialect troubled.toData = some troubled := by
  have hlegible : troubled.Legible := by
    have htext : TypeRef.unparsed "List<" = TypeRef.ofText "List<" := by decide +kernel
    simp only [Legible, troubled, List.forall_mem_singleton]
    exact fun p hp ↦ List.mem_singleton.1 hp ▸ ⟨_, htext⟩
  have hread := (ofData?_toData troubled).1 hlegible
  exact ⟨hlegible, hread _, hread _⟩

end ModelFile

end ConfigDocs
