import Mathlib.Data.List.Forall2
import ConfigDocs.Proofs.Forest
import ConfigDocs.Proofs.TableLines

/-!
# Reading a Markdown table back

A line of a Markdown table is cut at the bars before which there is an even number of backslashes.
What stands between two such bars is a field, and a field says what kind of cell it comes from: the
brackets of a link are the only ones that no backslash guards.  So a line gives back the cells of
its row, up to the line breaks that were folded, and the lines of a table give back the table, up to
the rows without cells, which leave no line.

This takes that the target of a link, which is written as it is, holds neither a bar nor a line
break.  The targets that a pass with qualified file names makes hold neither of them, nor a
backslash, because such a name has nothing in it but letters, numerals, hyphens and the full stop of
its extension.
-/

set_option autoImplicit false

namespace ConfigDocs

open ConfigDocs.Text

namespace Markdown

/-! ## The reader -/

/-- A backslash guards the character behind it, unless it is guarded itself.  So what has an odd
number of backslashes before it is guarded. -/
def guards (guarded : Bool) (c : Char) : Bool :=
  c == '\\' && !guarded

/-- The text without the backslashes that guard something. -/
def unescape : List Char → List Char
  | '\\' :: c :: rest => c :: unescape rest
  | c :: rest => c :: unescape rest
  | [] => []

/-- Reads what follows the opening bracket of a link: its text, up to the first bracket that is not
guarded, and its target. -/
def readLink? : List Char → Option (List Char × List Char)
  | '\\' :: c :: rest => (readLink? rest).map fun read ↦ (c :: read.1, read.2)
  | ']' :: '(' :: rest => if rest.getLast? = some ')' then some ([], rest.dropLast) else none
  | ']' :: _ => none
  | c :: rest => (readLink? rest).map fun read ↦ (c :: read.1, read.2)
  | [] => none

/-- Reads a field: a link if it begins with a bracket, and a text otherwise. -/
def readField? (field : List Char) : Option Cell :=
  match unpad field with
  | '[' :: rest =>
    (readLink? rest).map fun read ↦ .link (String.ofList read.2) (String.ofList read.1)
  | s => some (.text (String.ofList (unescape s)))

/-- The stretches of a line between one bar that counts and the next. -/
def fields (line : List Char) : List (List Char) :=
  (stretches guards false line).tail.dropLast

/-- A line begins and ends with a bar, and its fields are these cells. -/
structure ReadsAs (line : List Char) (cells : List Cell) : Prop where
  /-- It begins with a bar. -/
  starts : line.head? = some '|'
  /-- It ends with a bar. -/
  ends : line.getLast? = some '|'
  /-- Its fields are read as the cells. -/
  reads : (fields line).mapM readField? = some cells

/-! ## Fields -/

theorem escape_eq (s : String) :
    escape s = (singleLine s.toList).flatMap fun c ↦ if c ∈ specials then ['\\', c] else [c] := by
  simp [escape]

theorem closed_escape (s : String) : Closed guards (escape s) := by
  rw [escape_eq]
  refine .flatMap fun c _ ↦ ?_
  by_cases hc : c ∈ specials
  · rw [if_pos hc]
    exact ⟨by simp [allGuarded, guards], by simp [guards]⟩
  · have hbar : c ≠ '|' := fun h ↦ hc (h ▸ by decide)
    have hslash : c ≠ '\\' := fun h ↦ hc (h ▸ by decide)
    rw [if_neg hc]
    exact ⟨by simp [allGuarded, hbar], by simp [guards, hslash]⟩

theorem oneLine_escape (s : String) : OneLine (escape s) := by
  have hline := oneLine_singleLine s.toList
  rw [escape_eq]
  refine .flatMap fun c hc ↦ ?_
  have hreturn : c ≠ '\r' := fun h ↦ hline.returns (h ▸ hc)
  have hfeed : c ≠ '\n' := fun h ↦ hline.feeds (h ▸ hc)
  split
  · exact ⟨by simp [Ne.symm hreturn], by simp [Ne.symm hfeed]⟩
  · exact ⟨by simp [Ne.symm hreturn], by simp [Ne.symm hfeed]⟩

theorem unescape_cons {c : Char} (hc : c ≠ '\\') (rest : List Char) :
    unescape (c :: rest) = c :: unescape rest := by
  rw [unescape]
  simp [hc]

theorem unescape_escape (s : String) : unescape (escape s) = singleLine s.toList := by
  rw [escape_eq]
  induction singleLine s.toList with
  | nil => rfl
  | cons c cs ih =>
    rw [List.flatMap_cons]
    by_cases hc : c ∈ specials
    · rw [if_pos hc, List.cons_append, List.singleton_append, unescape, ih]
    · have hslash : c ≠ '\\' := fun h ↦ hc (h ▸ by decide)
      rw [if_neg hc, List.singleton_append, unescape_cons hslash, ih]

/-- An escaped text does not begin like a link. -/
theorem escape_ne_bracket (s : String) (rest : List Char) : escape s ≠ '[' :: rest := by
  rw [escape_eq]
  intro h
  cases hline : singleLine s.toList with
  | nil => simp [hline] at h
  | cons c cs =>
    rw [hline, List.flatMap_cons] at h
    by_cases hc : c ∈ specials
    · simp [hc] at h
    · rw [if_neg hc, List.singleton_append, List.cons.injEq] at h
      exact hc (h.1 ▸ by decide)

theorem readLink?_cons {c : Char} (hslash : c ≠ '\\') (hbracket : c ≠ ']') (rest : List Char) :
    readLink? (c :: rest) = (readLink? rest).map fun read ↦ (c :: read.1, read.2) := by
  rw [readLink?] <;> simp [hslash, hbracket]

/-- The text of a link is read up to the bracket that closes it, and the target up to the end. -/
theorem readLink?_escape (s : String) (target : List Char) :
    readLink? (escape s ++ ']' :: '(' :: (target ++ [')'])) =
      some (singleLine s.toList, target) := by
  rw [escape_eq]
  induction singleLine s.toList with
  | nil => simp [readLink?]
  | cons c cs ih =>
    rw [List.flatMap_cons, List.append_assoc]
    by_cases hc : c ∈ specials
    · rw [if_pos hc, List.cons_append, List.singleton_append, readLink?, ih]
      rfl
    · have hslash : c ≠ '\\' := fun h ↦ hc (h ▸ by decide)
      have hbracket : c ≠ ']' := fun h ↦ hc (h ▸ by decide)
      rw [if_neg hc, List.singleton_append, readLink?_cons hslash hbracket, ih]
      rfl

/-- The field of some content. -/
def field (content : List Char) : List Char :=
  ' ' :: (content ++ [' '])

theorem readField?_text (s : String) :
    readField? (field (escape s)) = some (.text (foldLines s)) := by
  unfold readField? field
  rw [unpad_padded]
  split
  · rename_i rest heq
    exact absurd heq (escape_ne_bracket s rest)
  · rw [unescape_escape]
    rfl

theorem readField?_content (c : Cell) : readField? (field (content c)) = some c.folded := by
  cases c with
  | text s => exact readField?_text s
  | link target s =>
    unfold readField? field
    rw [unpad_padded]
    simp [content, link, readLink?_escape, Cell.folded, foldLines]

theorem closed_field {content : List Char} (h : Closed guards content) :
    Closed guards (field content) :=
  Closed.append (s := [' ']) ⟨rfl, rfl⟩ (h.append ⟨rfl, rfl⟩)

theorem closed_content {c : Cell} (h : c.TargetAvoids ['|', '\r', '\n']) :
    Closed guards (content c) := by
  cases c with
  | text s => exact closed_escape s
  | link target s =>
    have hbar : '|' ∉ target.toList := h target s rfl '|' (by simp)
    -- Whatever the target ends with, the bracket behind it is no backslash.
    have htarget : Closed guards (target.toList ++ [')']) := by
      refine ⟨allGuarded_of_notMem (by simpa using hbar) false, ?_⟩
      rw [List.foldl_append]
      rfl
    exact Closed.append (s := ['[']) ⟨rfl, rfl⟩ ((closed_escape s).append
      (Closed.append (s := [']', '(']) ⟨rfl, rfl⟩ htarget))

theorem oneLine_content {c : Cell} (h : c.TargetAvoids ['|', '\r', '\n']) :
    OneLine (content c) := by
  cases c with
  | text s => exact oneLine_escape s
  | link target s =>
    have htarget : OneLine target.toList :=
      ⟨h target s rfl '\r' (by simp), h target s rfl '\n' (by simp)⟩
    exact OneLine.append (s := ['[']) (by decide) ((oneLine_escape s).append
      (OneLine.append (s := [']', '(']) (by decide) (htarget.append (by decide))))

/-! ## Lines -/

/-- A line of fields, each closed by a bar. -/
def lineOf (fields : List (List Char)) : List Char :=
  '|' :: fields.flatMap fun field ↦ field ++ ['|']

/-- The line under a header with so many columns. -/
def ruleLine (columns : Nat) : List Char :=
  lineOf (List.replicate columns " --- ".toList)

theorem fields_lineOf {fields : List (List Char)} (h : ∀ field ∈ fields, Closed guards field) :
    Markdown.fields (lineOf fields) = fields := by
  rw [Markdown.fields, lineOf, stretches, if_pos ⟨rfl, rfl⟩, stretches_flatMap_bar h]
  simp

/-- A line is read field by field. -/
theorem readsAs_lineOf {α : Type} {xs : List α} {content : α → List Char} {cell : α → Cell}
    (hclosed : ∀ x ∈ xs, Closed guards (content x))
    (hread : ∀ x, readField? (field (content x)) = some (cell x)) :
    ReadsAs (lineOf (xs.map fun x ↦ field (content x))) (xs.map cell) := by
  refine ⟨rfl, ?_, ?_⟩
  · rw [lineOf]
    rcases List.eq_nil_or_concat xs with rfl | ⟨init, x, rfl⟩
    · rfl
    · rw [List.getLast?_eq_some_iff]
      refine ⟨'|' :: ((init.map fun x ↦ field (content x)).flatMap (· ++ ['|']) ++
        field (content x)), ?_⟩
      simp
  · rw [fields_lineOf]
    · clear hclosed
      induction xs with
      | nil => rfl
      | cons x xs ih => simp [hread, ih]
    · intro s hs
      obtain ⟨x, hx, rfl⟩ := List.mem_map.1 hs
      exact closed_field (hclosed x hx)

theorem oneLine_lineOf {fields : List (List Char)} (h : ∀ s ∈ fields, OneLine s) :
    OneLine (lineOf fields) :=
  OneLine.append (s := ['|']) (by decide) (.flatMap fun s hs ↦ (h s hs).append (by decide))

theorem oneLine_field {content : List Char} (h : OneLine content) : OneLine (field content) :=
  OneLine.append (s := [' ']) (by decide) (h.append (by decide))

/-- The line of a row. -/
def rowLine (cells : Row) : List Char :=
  lineOf (cells.map fun c ↦ field (content c))

/-- The lines of a header. -/
def headerLines : List String → List (List Char)
  | [] => []
  | label :: labels =>
    [lineOf ((label :: labels).map fun l ↦ field (escape l)), ruleLine (labels.length + 1)]

/-- The lines of rows; those without cells have none. -/
def rowLines (rows : List Row) : List (List Char) :=
  (rows.filter (· ≠ [])).map rowLine

theorem line_eq (fields : List (List Char)) (h : fields ≠ []) :
    line (fields.map fun s ↦ s ++ ['|']) = lineOf fields ++ ['\n'] := by
  cases fields with
  | nil => exact absurd rfl h
  | cons s fields => simp [line, lineOf, List.flatMap_def]

theorem row_eq {cells : Row} (h : cells ≠ []) : row cells = rowLine cells ++ ['\n'] := by
  rw [row, rowLine, ← line_eq _ (by simpa using h), List.map_map]
  congr 2
  funext c
  simp [cell, field]

theorem rows_eq (rows : List Row) :
    rows.flatMap row = (rowLines rows).flatMap fun line ↦ line ++ ['\n'] := by
  induction rows with
  | nil => rfl
  | cons cells rows ih =>
    rw [List.flatMap_cons, ih, rowLines]
    by_cases h : cells = []
    · subst h
      simp [row, line, rowLines]
    · simp [row_eq h, h, rowLines]

theorem header_eq (labels : List String) :
    header labels = (headerLines labels).flatMap fun line ↦ line ++ ['\n'] := by
  cases labels with
  | nil => rfl
  | cons label labels =>
    have hlabels : headerRow (label :: labels) =
        lineOf ((label :: labels).map fun l ↦ field (escape l)) ++ ['\n'] := by
      rw [headerRow, ← line_eq _ (by simp), List.map_map]
      congr 2
      funext l
      simp [headerCell, field]
    have hrule : rule (label :: labels) = ruleLine (labels.length + 1) ++ ['\n'] := by
      rw [rule, ruleLine, ← line_eq _ (by simp), List.map_replicate, List.map_const']
      rfl
    simp [header, hlabels, hrule, headerLines]

/-- The lines of a table. -/
theorem table_eq (t : Table) :
    table t = (headerLines t.header ++ rowLines t.rows).flatMap fun line ↦ line ++ ['\n'] := by
  rw [table, header_eq, rows_eq, List.flatMap_append]

theorem oneLine_tableLines {t : Table} (h : t.TargetsAvoid ['|', '\r', '\n']) :
    ∀ line ∈ headerLines t.header ++ rowLines t.rows, OneLine line := by
  intro line hline
  rcases List.mem_append.1 hline with hline | hline
  · cases hheader : t.header with
    | nil => simp [hheader, headerLines] at hline
    | cons label labels =>
      rw [hheader, headerLines] at hline
      simp only [List.mem_cons, List.not_mem_nil, or_false] at hline
      rcases hline with rfl | rfl
      · refine oneLine_lineOf fun s hs ↦ ?_
        obtain ⟨l, -, rfl⟩ := List.mem_map.1 hs
        exact oneLine_field (oneLine_escape l)
      · refine oneLine_lineOf fun s hs ↦ ?_
        rw [List.eq_of_mem_replicate hs]
        decide
  · obtain ⟨cells, hcells, rfl⟩ := List.mem_map.1 hline
    refine oneLine_lineOf fun s hs ↦ ?_
    obtain ⟨c, hc, rfl⟩ := List.mem_map.1 hs
    exact oneLine_field (oneLine_content (h cells (List.mem_filter.1 hcells).1 c hc))

/-! ## Reading the lines -/

/-- The lines of a header: none without labels, and otherwise a line with the labels and one with as
many dashes under them. -/
inductive IsHeader : List String → List (List Char) → Prop
  | none : IsHeader [] []
  | lines {label : String} {labels : List String} {line : List Char}
      (h : ReadsAs line ((label :: labels).map fun l ↦ .text (foldLines l))) :
      IsHeader (label :: labels) [line, ruleLine (labels.length + 1)]

theorem isHeader_headerLines (labels : List String) : IsHeader labels (headerLines labels) := by
  cases labels with
  | nil => exact .none
  | cons label labels =>
    exact .lines (readsAs_lineOf (fun l _ ↦ closed_escape l) readField?_text)

theorem readsAs_rowLine {cells : Row} (h : ∀ c ∈ cells, c.TargetAvoids ['|', '\r', '\n']) :
    ReadsAs (rowLine cells) (cells.map Cell.folded) :=
  readsAs_lineOf (fun c hc ↦ closed_content (h c hc)) readField?_content

theorem forall₂_rowLines {rows : List Row}
    (h : ∀ cells ∈ rows, ∀ c ∈ cells, c.TargetAvoids ['|', '\r', '\n']) :
    List.Forall₂ (fun cells line ↦ ReadsAs line (cells.map Cell.folded)) (rows.filter (· ≠ []))
      (rowLines rows) := by
  rw [rowLines, List.forall₂_map_right_iff, List.forall₂_same]
  intro cells hcells
  exact readsAs_rowLine (h cells (List.mem_filter.1 hcells).1)

theorem ReadsAs.unique {line : List Char} {cells cells' : List Cell} (h : ReadsAs line cells)
    (h' : ReadsAs line cells') : cells = cells' :=
  Option.some.inj (h.reads.symm.trans h'.reads)

/-- Headers with the same lines have the same labels, up to line breaks. -/
theorem IsHeader.unique {labels labels' : List String} {lines lines' : List (List Char)}
    (h : IsHeader labels lines) (h' : IsHeader labels' lines') (heq : lines = lines') :
    labels.map foldLines = labels'.map foldLines := by
  cases h with
  | none =>
    cases h' with
    | none => rfl
    | lines => simp at heq
  | lines h =>
    cases h' with
    | none => simp at heq
    | lines h' =>
      obtain ⟨rfl, -⟩ := List.cons.inj heq
      have hcells := h.unique h'
      have hinjective : Function.Injective Cell.text := fun _ _ htext ↦ Cell.text.inj htext
      refine List.map_injective_iff.2 hinjective ?_
      rw [List.map_map, List.map_map]
      exact hcells

/-- Rows with the same numbers of cells are the same if those with cells are. -/
theorem map_eq_of_filter_ne_nil {α β : Type} [DecidableEq α] {f : α → β}
    {rows rows' : List (List α)}
    (hlength : rows.map List.length = rows'.map List.length)
    (h : (rows.filter (· ≠ [])).map (List.map f) = (rows'.filter (· ≠ [])).map (List.map f)) :
    rows.map (List.map f) = rows'.map (List.map f) := by
  induction rows generalizing rows' with
  | nil =>
    have hnil : rows' = [] := by simpa using hlength.symm
    rw [hnil]
  | cons cells rows ih =>
    cases rows' with
    | nil => simp at hlength
    | cons cells' rows' =>
      simp only [List.map_cons, List.cons.injEq] at hlength
      by_cases hcells : cells = []
      · have hcells' : cells' = [] := by simpa [hcells] using hlength.1.symm
        subst hcells hcells'
        simp only [ne_eq, not_true_eq_false, decide_false, Bool.false_eq_true, not_false_eq_true,
          List.filter_cons_of_neg] at h
        rw [List.map_cons, List.map_cons, ih hlength.2 h]
      · have hcells' : cells' ≠ [] := by
          rintro rfl
          simp [hcells] at hlength
        simp only [ne_eq, hcells, hcells', not_false_eq_true, decide_true, List.filter_cons_of_pos,
          List.map_cons, List.cons.injEq] at h
        rw [List.map_cons, List.map_cons, h.1, ih hlength.2 h.2]

theorem length_headerLines {labels labels' : List String} (h : labels.length = labels'.length) :
    (headerLines labels).length = (headerLines labels').length := by
  cases labels with
  | nil =>
    have hnil : labels' = [] := by simpa using h.symm
    rw [hnil]
  | cons label labels =>
    cases labels' with
    | nil => simp at h
    | cons label' labels' => rfl

/-- **Tables that look the same are the same**, up to line breaks and up to the rows without
cells. -/
theorem folded_eq_of_table_eq {t t' : Table} (ht : t.TargetsAvoid ['|', '\r', '\n'])
    (ht' : t'.TargetsAvoid ['|', '\r', '\n']) (hheader : t.header.length = t'.header.length)
    (hrows : t.rows.map List.length = t'.rows.map List.length) (h : table t = table t') :
    t.folded = t'.folded := by
  have hlines : headerLines t.header ++ rowLines t.rows =
      headerLines t'.header ++ rowLines t'.rows := by
    have hcut := congrArg (segments '\n') h
    rw [table_eq, table_eq,
      segments_flatMap_append fun line hline ↦ (oneLine_tableLines ht line hline).feeds,
      segments_flatMap_append fun line hline ↦ (oneLine_tableLines ht' line hline).feeds] at hcut
    exact List.append_cancel_right hcut
  obtain ⟨hheaders, hrowLines⟩ := List.append_inj hlines (length_headerLines hheader)
  have hcells : (t.rows.filter (· ≠ [])).map (List.map Cell.folded) =
      (t'.rows.filter (· ≠ [])).map (List.map Cell.folded) := by
    have hread : ∀ {rows : List Row} (_ : ∀ cells ∈ rows, ∀ c ∈ cells,
        c.TargetAvoids ['|', '\r', '\n']),
        (rowLines rows).map (fun line ↦ (fields line).mapM readField?) =
          ((rows.filter (· ≠ [])).map (List.map Cell.folded)).map some := by
      intro rows hrows
      rw [rowLines, List.map_map, List.map_map]
      refine List.map_congr_left fun cells hcells ↦ ?_
      exact (readsAs_rowLine (hrows cells (List.mem_filter.1 hcells).1)).reads
    have hsome := hread ht
    rw [hrowLines, hread ht'] at hsome
    exact (List.map_injective_iff.2 (fun _ _ h ↦ Option.some.inj h) hsome).symm
  have hlabels := (isHeader_headerLines t.header).unique (isHeader_headerLines t'.header) hheaders
  rw [Table.folded, Table.folded, hlabels, map_eq_of_filter_ne_nil hrows hcells]

theorem emits_table (t : Table) : Format.markdown.Emits (.table t) (table t) := by
  intro b
  simp [Buffer.visit, Format.ink, part]

end Markdown

/-! ## The targets of qualified names -/

/-- The characters that are no part of a qualified file name but mean something in a table. -/
def tableMarks : List Char :=
  ['|', '\\', '\r', '\n']

theorem mem_tableMarks {d : Char} :
    d ∈ tableMarks ↔ d = '|' ∨ d = '\\' ∨ d = '\r' ∨ d = '\n' := by
  simp [tableMarks]

theorem class_of_mem_tableMarks {d : Char} (hd : d ∈ tableMarks) :
    isAlphanumeric d = false ∧ d.isDigit = false ∧ d ≠ '-' := by
  rcases mem_tableMarks.1 hd with rfl | rfl | rfl | rfl <;> decide

theorem notMem_extension {d : Char} (hd : d ∈ tableMarks) (format : Format) :
    d ∉ format.extension.toList := by
  rcases mem_tableMarks.1 hd with rfl | rfl | rfl | rfl <;> cases format <;> decide

namespace Catalog

variable {catalog : Catalog}

theorem notMem_claimNames {d : Char} (hd : d ∈ tableMarks) {options : PassOptions}
    (hqualified : options.includeNamespaces = true) (ledger : Ledger) (types : List TypeDecl) :
    ∀ entry ∈ (claimNames options ledger types).1, d ∉ entry.2.toList := by
  obtain ⟨hletter, hdigit, hhyphen⟩ := class_of_mem_tableMarks hd
  refine forall_mem_claimNames (P := fun name ↦ d ∉ name.toList) (fun t _ ledger ↦ ?_) ledger
  rw [hqualified]
  exact Ledger.notMem_candidate hdigit hhyphen (notMem_baseFileName_qualified hletter hhyphen t)
    (notMem_extension hd options.format) _

theorem notMem_nameOf {d : Char} {names : List (TypeDecl × String)}
    (h : ∀ entry ∈ names, d ∉ entry.2.toList) (t : TypeDecl) : d ∉ (nameOf names t).toList := by
  rw [nameOf]
  cases hfind : names.find? fun entry ↦ entry.1.fullName == t.fullName with
  | none => simp
  | some entry => exact h entry (List.mem_of_find?_eq_some hfind)

/-- **The links of a pass with qualified file names can be written into any table.** -/
theorem targetsAvoid_pages {root : TypeDecl} {options : PassOptions}
    (hqualified : options.includeNamespaces = true) (ledger : Ledger) :
    ∀ page ∈ (catalog.pages root options ledger).1,
      page.document.table.TargetsAvoid tableMarks := by
  intro page hpage cells hcells c hc target text hlink d hd
  subst hlink
  cases hlayout : options.layout with
  | inline =>
    rw [pages, hlayout, List.mem_singleton] at hpage
    subst hpage
    exact absurd hc (notMem_inlineRows hcells target text)
  | separate =>
    rw [pages, hlayout] at hpage
    obtain ⟨entry, -, hof⟩ := exists_isPageOf hpage
    rw [hof.rows, separateRows] at hcells
    obtain ⟨property, -, rfl⟩ := List.mem_map.1 hcells
    rw [separateRow] at hc
    split at hc
    · simp [PropertyEntry.row, PropertyEntry.details] at hc
    · rename_i custom _
      have htarget : target = nameOf (catalog.pageNames root options ledger) custom := by
        simp only [PropertyEntry.linkRow, PropertyEntry.details, List.mem_cons, Cell.link.injEq,
          reduceCtorEq, List.not_mem_nil, or_false] at hc
        exact hc.1
      rw [htarget]
      exact notMem_nameOf (notMem_claimNames hd hqualified ledger _) custom

end Catalog

open Markdown in
/-- **A Markdown table can be read back.**  If no target of a link holds a bar or a line break, then
what is written for a table, after whatever has been written before, is the lines of its header and
one line for each row that has a cell, and a line gives back its cells up to line breaks.  So a
table with as many cells in each place that is written in the same way is the same, up to line
breaks.  The targets of a pass with qualified file names hold neither bars nor line breaks, nor
backslashes. -/
theorem Table.markdown_readBack (t : Table) (h : t.TargetsAvoid ['|', '\r', '\n']) :
    (∃ text headerLines rowLines, Format.markdown.Emits (.table t) text ∧ '\r' ∉ text ∧
      segments '\n' text = headerLines ++ rowLines ++ [[]] ∧ IsHeader t.header headerLines ∧
      List.Forall₂ (fun cells line ↦ ReadsAs line (cells.map Cell.folded)) (t.rows.filter (· ≠ []))
        rowLines ∧
      ∀ t' : Table, t'.TargetsAvoid ['|', '\r', '\n'] → t'.header.length = t.header.length →
        t'.rows.map List.length = t.rows.map List.length →
        Format.markdown.Emits (.table t') text → t'.folded = t.folded) ∧
      ∀ (catalog : Catalog) (root : TypeDecl) (options : PassOptions) (ledger : Ledger),
        options.includeNamespaces = true → ∀ page ∈ (catalog.pages root options ledger).1,
          page.document.table.TargetsAvoid ['|', '\\', '\r', '\n'] := by
  refine ⟨⟨table t, headerLines t.header, rowLines t.rows, emits_table t, ?_, ?_,
    isHeader_headerLines t.header, forall₂_rowLines h, ?_⟩, ?_⟩
  · rw [table_eq]
    intro hreturn
    obtain ⟨line, hline, hmem⟩ := List.mem_flatMap.1 hreturn
    simp [(oneLine_tableLines h line hline).returns] at hmem
  · rw [table_eq]
    exact segments_flatMap_append fun line hline ↦ (oneLine_tableLines h line hline).feeds
  · intro t' h' hheader hrows hemits
    have htext : table t' = table t := by
      have hboth := (emits_table t' .empty).symm.trans (hemits .empty)
      simpa using hboth
    exact folded_eq_of_table_eq h' h hheader hrows htext
  · intro catalog root options ledger hqualified
    exact Catalog.targetsAvoid_pages hqualified ledger

/-- A table whose texts are full of signs, with a row that has no cells. -/
def awkwardTable : Table where
  header := ["a|b"]
  rows := [[.text "x\\", .link "p.md" "[y]|\r\n"], []]

open Markdown in
/-- The signs of the awkward table come back, and the line break is folded. -/
theorem Table.markdown_readBack_awkward :
    awkwardTable.TargetsAvoid ['|', '\r', '\n'] ∧
      ∃ text labels cells, Format.markdown.Emits (.table awkwardTable) text ∧
        segments '\n' text = [labels, "| --- |".toList, cells, []] ∧
        ReadsAs labels [.text "a|b"] ∧ ReadsAs cells [.text "x\\", .link "p.md" "[y]| "] := by
  have havoid : awkwardTable.TargetsAvoid ['|', '\r', '\n'] := by
    simp [Table.TargetsAvoid, awkwardTable]
  refine ⟨havoid, ?_⟩
  obtain ⟨⟨text, headerLines, rowLines, hemits, -, hcut, hheader, hrows, -⟩, -⟩ :=
    awkwardTable.markdown_readBack havoid
  cases hheader with
  | lines hlabels =>
    cases hrows with
    | cons hcells hnone =>
      cases hnone
      exact ⟨text, _, _, hemits, hcut, hlabels, hcells⟩

end ConfigDocs
