import Mathlib.Data.List.DropRight
import Mathlib.Data.List.Forall2
import ConfigDocs.Proofs.TableLines

/-!
# Reading an AsciiDoc table back

An AsciiDoc table stands between two fences, with one line for the header and one for each row.  A
line is cut at the bars that have no backslash right before them.  Backslashes themselves are not
escaped, which does no harm: before a bar that separates cells there is always a space, and before a
bar within a text there is always the backslash that was written for it, whatever the text has
there.

A line ends without blanks, so the last cell of a row loses those at its end, and no others do.
Ending a line takes blanks back from all that has been written, not only from the line
(`Buffer.toList_endLine`); it stops at the line because the text before the line ends with a line
break, which is what `Buffer.toList_write_line` needs and what it leaves behind.
-/

set_option autoImplicit false

namespace ConfigDocs

open ConfigDocs.Text

/-! ## Taking back what a line ends with -/

namespace Text

theorem trimEnd_append_cons {p : Char → Bool} {c : Char} (hc : p c = false) (s t : List Char) :
    trimEnd p (s ++ c :: t) = s ++ c :: trimEnd p t := by
  induction t using List.reverseRecOn with
  | nil => exact trimEnd_append_of_neg hc s
  | append_singleton t d ih =>
    rw [← List.cons_append, ← List.append_assoc]
    cases hd : p d with
    | true => rw [trimEnd_append_of_pos hd, trimEnd_append_of_pos hd, ih]
    | false => rw [trimEnd_append_of_neg hd, trimEnd_append_of_neg hd, List.append_assoc,
        List.cons_append]

theorem trimEnd_subset (p : Char → Bool) (s : List Char) : trimEnd p s ⊆ s := by
  intro c hc
  rw [trimEnd, List.mem_reverse] at hc
  exact List.mem_reverse.1 ((List.dropWhile_sublist p).subset hc)

theorem trimEnd_trimEnd (p : Char → Bool) (s : List Char) :
    trimEnd p (trimEnd p s) = trimEnd p s := by
  rw [trimEnd, trimEnd, List.reverse_reverse, List.dropWhile_idempotent]

end Text

/-! ## Lines in the buffer -/

namespace Buffer

/-- Something has been written, and it ends with a line break. -/
def AtLineStart (b : Buffer) : Prop :=
  ∃ before, b.toList = before ++ ['\n']

theorem atLineStart_put {b : Buffer} (s : List Char) :
    (b.stroke (.put (s ++ ['\n']))).AtLineStart :=
  ⟨b.toList ++ s, by simp⟩

/-- At the start of a line, ending a line takes back no more than blanks of that line. -/
theorem toList_write_line {b : Buffer} (h : b.AtLineStart) (s : List Char) :
    (b.write [.put s, .endLine]).toList = b.toList ++ (trimEnd isPadding s ++ ['\n']) := by
  obtain ⟨before, hb⟩ := h
  have htrim := trimEnd_append_cons (p := isPadding) (c := '\n') rfl before s
  simp only [write_cons, write_nil, toList_endLine, toList_put]
  rw [← trimEnd, hb, List.append_assoc, List.singleton_append, htrim]
  simp

theorem atLineStart_write_line {b : Buffer} (h : b.AtLineStart) (s : List Char) :
    (b.write [.put s, .endLine]).AtLineStart :=
  ⟨b.toList ++ trimEnd isPadding s, by rw [toList_write_line h, List.append_assoc]⟩

/-- Lines are written one below the other. -/
theorem toList_write_lines {α : Type} (f : α → List Char) (xs : List α) {b : Buffer}
    (h : b.AtLineStart) :
    (b.write (xs.flatMap fun x ↦ [.put (f x), .endLine])).toList =
      b.toList ++ xs.flatMap fun x ↦ trimEnd isPadding (f x) ++ ['\n'] := by
  induction xs generalizing b with
  | nil => simp
  | cons x xs ih =>
    rw [List.flatMap_cons, write_append, ih (atLineStart_write_line h (f x)), toList_write_line h,
      List.flatMap_cons, List.append_assoc]

end Buffer

namespace AsciiDoc

/-! ## The reader -/

/-- A backslash guards the character right behind it. -/
def guards (_guarded : Bool) (c : Char) : Bool :=
  c == '\\'

/-- The text with a bar for each bar with a backslash before it. -/
def unbar : List Char → List Char
  | '\\' :: '|' :: rest => '|' :: unbar rest
  | c :: rest => c :: unbar rest
  | [] => []

/-- The number of bars that have no backslash right before them. -/
def countBars : Bool → List Char → Nat
  | _, [] => 0
  | guarded, c :: rest =>
    (if c = '|' ∧ guarded = false then 1 else 0) + countBars (c == '\\') rest

/-- What the fields of a line say, from the first bar on. -/
def fields (line : List Char) : List (List Char) :=
  (stretches guards false line).tail.map fun s ↦ unbar (unpad s)

/-- The line that says that a table with a header follows. -/
def optionsLine : List Char :=
  "[options=\"header\"]".toList

/-- The line before and after the lines of a table. -/
def fence : List Char :=
  "|===".toList

/-- What a cell says in its field. -/
def shown : Cell → List Char
  | .text s => singleLine s.toList
  | .link target s =>
    "xref:".toList ++ (target.toList ++ '[' :: (singleLine s.toList ++ [']']))

/-- The texts of a line, the last of them without the spaces and tabs at its end. -/
def endTrimmed : List (List Char) → List (List Char)
  | [] => []
  | [s] => [trimEnd Buffer.isPadding s]
  | s :: next :: rest => s :: endTrimmed (next :: rest)

/-- A line has a field for each of the texts. -/
structure Shows (line : List Char) (texts : List (List Char)) : Prop where
  /-- It is no fence. -/
  notFence : line ≠ fence
  /-- It is empty if there are no texts. -/
  blank : texts = [] → line = []
  /-- There are as many bars as texts. -/
  bars : countBars false line = texts.length
  /-- Nothing precedes the first bar. -/
  lead : (stretches guards false line).head? = some []
  /-- The fields say the texts, except for the blanks at the end of the line. -/
  fields : fields line = endTrimmed texts

theorem length_stretches (guarded : Bool) (s : List Char) :
    (stretches guards guarded s).length = countBars guarded s + 1 := by
  induction s generalizing guarded with
  | nil => rfl
  | cons c rest ih =>
    rw [stretches, countBars]
    split
    · rename_i hbar
      rw [List.length_cons, ih, hbar.1]
      simp [Nat.add_comm]
    · rw [List.length_modifyHead, ih, Nat.zero_add]
      rfl

/-! ## Texts with their bars guarded -/

/-- The text with a backslash before each bar. -/
def barred (s : List Char) : List Char :=
  s.flatMap fun c ↦ if c = '|' then ['\\', '|'] else [c]

theorem barred_of_notMem {s : List Char} (h : '|' ∉ s) : barred s = s := by
  induction s with
  | nil => rfl
  | cons c s ih =>
    rw [List.mem_cons, not_or] at h
    rw [barred, List.flatMap_cons, if_neg (Ne.symm h.1), ← barred, ih h.2, List.singleton_append]

@[simp] theorem barred_nil : barred [] = [] := rfl

@[simp] theorem barred_append (s t : List Char) : barred (s ++ t) = barred s ++ barred t :=
  List.flatMap_append

@[simp] theorem barred_cons (c : Char) (s : List Char) :
    barred (c :: s) = (if c = '|' then ['\\', '|'] else [c]) ++ barred s :=
  List.flatMap_cons

/-- The content of a cell is what the cell says, with its bars guarded. -/
theorem content_eq {c : Cell} (h : c.TargetAvoids ['|', '\r', '\n']) :
    content c = barred (shown c) := by
  cases c with
  | text s => rfl
  | link target s =>
    have hbar : '|' ∉ target.toList := h target s rfl '|' (by simp)
    have hhead : barred "xref:".toList = "xref:".toList := barred_of_notMem (by decide)
    have hescape : barred (singleLine s.toList) = escape s := rfl
    unfold content link shown
    rw [barred_append, barred_append, barred_cons, barred_append, hhead, barred_of_notMem hbar,
      hescape]
    rfl

theorem allGuarded_barred (guarded : Bool) (s : List Char) :
    allGuarded guards guarded (barred s) = true := by
  induction s generalizing guarded with
  | nil => rfl
  | cons c s ih =>
    rw [barred_cons]
    by_cases hc : c = '|'
    · simp [hc, allGuarded, guards, ih]
    · simp [hc, allGuarded, ih]

theorem unbar_barred (s : List Char) : unbar (barred s) = s := by
  induction s with
  | nil => rfl
  | cons c s ih =>
    rw [barred_cons]
    by_cases hc : c = '|'
    · rw [if_pos hc, List.cons_append, List.singleton_append, unbar, ih, hc]
    · -- No bar follows, since a guarded text does not begin with one.
      have hnext : ∀ rest, barred s ≠ '|' :: rest := by
        intro rest heq
        cases s with
        | nil => simp [barred] at heq
        | cons d s =>
          rw [barred_cons] at heq
          by_cases hd : d = '|'
          · simp [hd] at heq
          · simp [hd] at heq
      rw [if_neg hc, List.singleton_append, unbar, ih]
      intro rest _ heq
      exact hnext rest heq

theorem trimEnd_barred (s : List Char) :
    trimEnd Buffer.isPadding (barred s) = barred (trimEnd Buffer.isPadding s) := by
  induction s using List.reverseRecOn with
  | nil => rfl
  | append_singleton s c ih =>
    by_cases hc : c = '|'
    · have hbar : barred (s ++ [c]) = (barred s ++ ['\\']) ++ ['|'] := by simp [hc, barred]
      rw [hbar, trimEnd_append_of_neg rfl, ← hbar, hc, trimEnd_append_of_neg rfl]
    · have hplain : barred (s ++ [c]) = barred s ++ [c] := by simp [hc, barred]
      rw [hplain]
      cases hpadding : Buffer.isPadding c with
      | true => rw [trimEnd_append_of_pos hpadding, trimEnd_append_of_pos hpadding, ih]
      | false => rw [trimEnd_append_of_neg hpadding, trimEnd_append_of_neg hpadding, hplain]

theorem oneLine_barred {s : List Char} (h : OneLine s) : OneLine (barred s) := by
  refine .flatMap fun c hc ↦ ?_
  have hreturn : c ≠ '\r' := fun heq ↦ h.returns (heq ▸ hc)
  have hfeed : c ≠ '\n' := fun heq ↦ h.feeds (heq ▸ hc)
  split
  · decide
  · exact ⟨by simpa using Ne.symm hreturn, by simpa using Ne.symm hfeed⟩

/-! ## Lines -/

/-- The field of a text that another field follows. -/
def field (s : List Char) : List Char :=
  ' ' :: (barred s ++ [' '])

/-- The field of a text at the end of a line. -/
def lastField (s : List Char) : List Char :=
  trimEnd Buffer.isPadding (field s)

/-- The fields of texts. -/
def fieldsOf : List (List Char) → List (List Char)
  | [] => []
  | [s] => [lastField s]
  | s :: next :: rest => field s :: fieldsOf (next :: rest)

/-- The line of texts. -/
def lineOf (texts : List (List Char)) : List Char :=
  trimEnd Buffer.isPadding (texts.flatMap fun s ↦ '|' :: field s)

theorem lineOf_singleton (s : List Char) : lineOf [s] = '|' :: lastField s := by
  rw [lineOf, List.flatMap_singleton]
  exact trimEnd_append_cons rfl [] (field s)

/-- The blanks at the end of a line are all in its last field. -/
theorem lineOf_cons (s next : List Char) (rest : List (List Char)) :
    lineOf (s :: next :: rest) = '|' :: (field s ++ lineOf (next :: rest)) := by
  have hbar : Buffer.isPadding '|' = false := rfl
  rw [lineOf, lineOf, List.flatMap_cons, List.flatMap_cons, List.cons_append, List.cons_append]
  have hwhole := trimEnd_append_cons hbar ('|' :: field s)
    (field next ++ rest.flatMap fun s ↦ '|' :: field s)
  have hrest := trimEnd_append_cons hbar [] (field next ++ rest.flatMap fun s ↦ '|' :: field s)
  rw [List.nil_append, List.nil_append] at hrest
  rw [hrest]
  exact hwhole

/-- A line with a text begins with a bar. -/
theorem exists_lineOf_eq (s : List Char) (rest : List (List Char)) :
    ∃ after, lineOf (s :: rest) = '|' :: after := by
  cases rest with
  | nil => exact ⟨_, lineOf_singleton s⟩
  | cons next rest => exact ⟨_, lineOf_cons s next rest⟩

theorem lastField_eq (s : List Char) :
    lastField s = if trimEnd Buffer.isPadding s = [] then []
      else ' ' :: barred (trimEnd Buffer.isPadding s) := by
  have hspace : Buffer.isPadding ' ' = true := rfl
  have hfield : lastField s = trimEnd Buffer.isPadding (' ' :: barred s) := by
    rw [lastField, field, ← List.cons_append, trimEnd_append_of_pos hspace]
  rw [hfield, trimEnd_cons, trimEnd_barred]
  by_cases hs : trimEnd Buffer.isPadding s = []
  · simp [hs, hspace]
  · have hbarred : barred (trimEnd Buffer.isPadding s) ≠ [] := by
      intro h
      have hnil := congrArg unbar h
      rw [unbar_barred] at hnil
      exact hs hnil
    simp [hs, hbarred]

theorem closed_field (s : List Char) : Closed guards (field s) := by
  refine ⟨?_, ?_⟩
  · have hall : allGuarded guards false (barred s ++ [' ']) = true := by
      rw [allGuarded_append, allGuarded_barred]
      rfl
    exact hall
  · rw [field, ← List.cons_append, List.foldl_append]
    rfl

theorem allGuarded_lastField (s : List Char) : allGuarded guards false (lastField s) = true := by
  rw [lastField_eq]
  split
  · rfl
  · exact allGuarded_barred false _

theorem stretches_bar (s : List Char) :
    stretches guards false ('|' :: s) = [] :: stretches guards false s := by
  rw [stretches, if_pos ⟨rfl, rfl⟩]

/-- A line is cut into its fields. -/
theorem stretches_lineOf : ∀ texts : List (List Char),
    stretches guards false (lineOf texts) = [] :: fieldsOf texts
  | [] => rfl
  | [s] => by
    rw [lineOf_singleton, stretches_bar, stretches_of_allGuarded (allGuarded_lastField s)]
    rfl
  | s :: next :: rest => by
    have hrest := stretches_lineOf (next :: rest)
    obtain ⟨after, hafter⟩ := exists_lineOf_eq next rest
    rw [hafter, stretches_bar, List.cons.injEq] at hrest
    rw [lineOf_cons, stretches_bar, hafter, (closed_field s).stretches_append_bar, hrest.2]
    rfl

theorem unpad_lastField (s : List Char) :
    unbar (unpad (lastField s)) = trimEnd Buffer.isPadding s := by
  rw [lastField_eq]
  by_cases hs : trimEnd Buffer.isPadding s = []
  · rw [if_pos hs, hs]
    rfl
  · rw [if_neg hs]
    -- What has been trimmed does not end with a space, so only the leading one is dropped.
    have hend : dropSpace (barred (trimEnd Buffer.isPadding s)).reverse =
        (barred (trimEnd Buffer.isPadding s)).reverse := by
      have htrim : trimEnd Buffer.isPadding (barred (trimEnd Buffer.isPadding s)) =
          barred (trimEnd Buffer.isPadding s) := by
        rw [trimEnd_barred, trimEnd_trimEnd]
      cases hreverse : (barred (trimEnd Buffer.isPadding s)).reverse with
      | nil => rfl
      | cons c rest =>
        have hc : c ≠ ' ' := by
          rintro rfl
          have hlength := congrArg List.length htrim
          rw [trimEnd, hreverse] at hlength
          have hshort := (List.dropWhile_sublist Buffer.isPadding (l := rest)).length_le
          have hrest := congrArg List.length hreverse
          simp [Buffer.isPadding] at hlength hrest
          omega
        rw [dropSpace]
        simp [hc]
    rw [unpad, dropSpace, hend, List.reverse_reverse, unbar_barred]

theorem map_fieldsOf : ∀ texts : List (List Char),
    (fieldsOf texts).map (fun s ↦ unbar (unpad s)) = endTrimmed texts
  | [] => rfl
  | [s] => by
    rw [fieldsOf, List.map_singleton, unpad_lastField]
    rfl
  | s :: next :: rest => by
    rw [fieldsOf, List.map_cons, map_fieldsOf (next :: rest), field, unpad_padded, unbar_barred]
    rfl

theorem length_fieldsOf : ∀ texts : List (List Char), (fieldsOf texts).length = texts.length
  | [] => rfl
  | [_] => rfl
  | s :: next :: rest => by
    rw [fieldsOf, List.length_cons, length_fieldsOf (next :: rest)]
    rfl

/-- What follows the first bar of a line is a space, if anything is. -/
theorem lineOf_ne_fence : ∀ texts : List (List Char), lineOf texts ≠ fence
  | [] => by decide
  | [s] => by
    rw [lineOf_singleton, lastField_eq]
    split
    · decide
    · intro h
      have hsecond := (List.cons.inj h).2
      cases hsecond
  | s :: next :: rest => by
    rw [lineOf_cons]
    intro h
    have hsecond := (List.cons.inj h).2
    cases hsecond

theorem shows_lineOf (texts : List (List Char)) : Shows (lineOf texts) texts where
  notFence := lineOf_ne_fence texts
  blank := by
    rintro rfl
    rfl
  bars := by
    have hlength := length_stretches false (lineOf texts)
    rw [stretches_lineOf, List.length_cons, length_fieldsOf] at hlength
    omega
  lead := by rw [stretches_lineOf, List.head?_cons]
  fields := by rw [AsciiDoc.fields, stretches_lineOf, List.tail_cons, map_fieldsOf]

theorem oneLine_lineOf {texts : List (List Char)} (h : ∀ s ∈ texts, OneLine s) :
    OneLine (lineOf texts) := by
  have hfields : OneLine (texts.flatMap fun s ↦ '|' :: field s) := by
    refine .flatMap fun s hs ↦ ?_
    exact OneLine.append (s := ['|', ' ']) (by decide)
      ((oneLine_barred (h s hs)).append (by decide))
  exact hfields.of_subset (trimEnd_subset ..)

/-! ## Tables -/

/-- The line of column labels. -/
def headerLine (labels : List String) : List Char :=
  lineOf (labels.map fun l ↦ singleLine l.toList)

/-- The line of a row. -/
def rowLine (cells : Row) : List Char :=
  lineOf (cells.map shown)

/-- The lines of a table, with its fences. -/
def tableLines (t : Table) : List (List Char) :=
  optionsLine :: fence :: headerLine t.header :: (t.rows.map rowLine ++ [fence])

theorem trimEnd_headerCells (labels : List String) :
    trimEnd Buffer.isPadding (labels.flatMap headerCell) = headerLine labels := by
  rw [headerLine, lineOf, List.flatMap_map]
  rfl

theorem trimEnd_cells {cells : Row} (h : ∀ c ∈ cells, c.TargetAvoids ['|', '\r', '\n']) :
    trimEnd Buffer.isPadding (cells.flatMap cell) = rowLine cells := by
  rw [rowLine, lineOf, List.flatMap_map]
  congr 1
  refine List.flatMap_congr fun c hc ↦ ?_
  rw [cell, content_eq (h c hc)]
  rfl

/-- **A table is written line by line**, whatever has been written before it. -/
theorem emits_table {t : Table} (h : t.TargetsAvoid ['|', '\r', '\n']) :
    Format.asciiDoc.Emits (.table t) ((tableLines t).flatMap fun line ↦ line ++ ['\n']) := by
  intro b
  have hopening : "[options=\"header\"]\n|===\n".toList =
      optionsLine ++ '\n' :: fence ++ ['\n'] := rfl
  have hclosing : "|===\n".toList = fence ++ ['\n'] := rfl
  have hrow : row = fun cells ↦ [.put (cells.flatMap cell), .endLine] := rfl
  have hopen := Buffer.atLineStart_put (b := b) (optionsLine ++ '\n' :: fence)
  have hheader := Buffer.atLineStart_write_line hopen (t.header.flatMap headerCell)
  have hrows : (t.rows.flatMap fun cells ↦
      trimEnd Buffer.isPadding (cells.flatMap cell) ++ ['\n']) =
        t.rows.flatMap fun cells ↦ rowLine cells ++ ['\n'] :=
    List.flatMap_congr fun cells hcells ↦ by rw [trimEnd_cells (h cells hcells)]
  rw [Buffer.visit, Format.ink, ink, table, Buffer.write_cons, Buffer.write_append,
    Buffer.write_append, Buffer.write_cons, Buffer.write_nil, Buffer.toList_put, hopening, hclosing,
    headerRow, hrow, Buffer.toList_write_lines _ t.rows hheader, Buffer.toList_write_line hopen,
    hrows, trimEnd_headerCells, Buffer.toList_put]
  simp [tableLines, List.flatMap_map]

theorem oneLine_shown {c : Cell} (h : c.TargetAvoids ['|', '\r', '\n']) : OneLine (shown c) := by
  cases c with
  | text s => exact oneLine_singleLine s.toList
  | link target s =>
    have htarget : OneLine target.toList :=
      ⟨h target s rfl '\r' (by simp), h target s rfl '\n' (by simp)⟩
    exact OneLine.append (by decide) (htarget.append (OneLine.append (s := ['[']) (by decide)
      ((oneLine_singleLine s.toList).append (by decide))))

theorem oneLine_tableLines {t : Table} (h : t.TargetsAvoid ['|', '\r', '\n']) :
    ∀ line ∈ tableLines t, OneLine line := by
  intro line hline
  simp only [tableLines, List.mem_cons, List.mem_append, List.mem_map, List.not_mem_nil,
    or_false] at hline
  rcases hline with rfl | rfl | rfl | ⟨cells, hcells, rfl⟩ | rfl
  · decide
  · decide
  · refine oneLine_lineOf fun s hs ↦ ?_
    obtain ⟨l, -, rfl⟩ := List.mem_map.1 hs
    exact oneLine_singleLine l.toList
  · refine oneLine_lineOf fun s hs ↦ ?_
    obtain ⟨c, hc, rfl⟩ := List.mem_map.1 hs
    exact oneLine_shown (h cells hcells c hc)
  · decide

end AsciiDoc

open AsciiDoc in
/-- **An AsciiDoc table keeps its shape and its texts.**  If no target of a link holds a bar or a
line break, then what is written for a table, after whatever has been written before, is a line for
the header and one for each row, between the fences; and each of these lines has as many bars as
cells and shows their texts on one line, except for the blanks at its end. -/
theorem Table.asciiDoc_readBack (t : Table) (h : t.TargetsAvoid ['|', '\r', '\n']) :
    ∃ text headerLine rowLines, Format.asciiDoc.Emits (.table t) text ∧ '\r' ∉ text ∧
      segments '\n' text = optionsLine :: fence :: headerLine :: (rowLines ++ [fence, []]) ∧
      Shows headerLine (t.header.map fun l ↦ singleLine l.toList) ∧
      List.Forall₂ (fun cells line ↦ Shows line (cells.map shown)) t.rows rowLines := by
  have hlines := oneLine_tableLines h
  refine ⟨(tableLines t).flatMap fun line ↦ line ++ ['\n'], AsciiDoc.headerLine t.header,
    t.rows.map rowLine, emits_table h, ?_, ?_, shows_lineOf _, ?_⟩
  · intro hreturn
    obtain ⟨line, hline, hmem⟩ := List.mem_flatMap.1 hreturn
    simp [(hlines line hline).returns] at hmem
  · rw [segments_flatMap_append fun line hline ↦ (hlines line hline).feeds]
    simp only [tableLines, List.cons_append, List.append_assoc, List.nil_append]
  · rw [List.forall₂_map_right_iff, List.forall₂_same]
    exact fun cells _ ↦ shows_lineOf (cells.map shown)

/-- A table whose texts end in what a line could end with, and a row without cells. -/
def raggedTable : Table where
  header := ["a\\"]
  rows := [[.text "x\\|", .link "p.adoc" "y\\", .text "z\n "], []]

open AsciiDoc in
/-- The ragged table keeps its backslashes and loses the blanks of its last cell only. -/
theorem Table.asciiDoc_readBack_ragged :
    raggedTable.TargetsAvoid ['|', '\r', '\n'] ∧
      ∃ text labels cells, Format.asciiDoc.Emits (.table raggedTable) text ∧
        segments '\n' text = [optionsLine, fence, labels, cells, [], fence, []] ∧
        AsciiDoc.fields labels = ["a\\".toList] ∧
        AsciiDoc.fields cells = ["x\\|".toList, "xref:p.adoc[y\\]".toList, "z".toList] := by
  have havoid : raggedTable.TargetsAvoid ['|', '\r', '\n'] := by
    simp [Table.TargetsAvoid, raggedTable]
  refine ⟨havoid, ?_⟩
  obtain ⟨text, labels, rowLines, hemits, -, hcut, hlabels, hrows⟩ :=
    raggedTable.asciiDoc_readBack havoid
  rw [raggedTable, List.forall₂_cons_left_iff] at hrows
  obtain ⟨cells, _, hcells, hrows, rfl⟩ := hrows
  rw [List.forall₂_cons_left_iff] at hrows
  obtain ⟨blank, _, hblank, hrows, rfl⟩ := hrows
  rw [List.forall₂_nil_left_iff] at hrows
  refine ⟨text, labels, cells, hemits, ?_, ?_, ?_⟩
  · rw [hcut, hrows, hblank.blank rfl]
    rfl
  · rw [hlabels.fields]
    decide
  · rw [hcells.fields]
    decide

end ConfigDocs
