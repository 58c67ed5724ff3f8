import Mathlib.Tactic.SplitIfs
import ConfigDocs.Markup.Render
import ConfigDocs.Text.Basic
import ConfigDocs.Text.Segments

/-!
# The markup of an HTML page

A page is read the way a browser begins to read it: cut at the angle brackets into tags and the
text between them, and each tag at its quotes into what is markup and what is the value of an
attribute (`Html.readPage`).  The reader is strict.  An angle bracket or a quote that has no place
in a tag makes it give up, so that it reads a page at all says that no text has put one there.

What is left of a page when the values and the texts between tags are blanked is its *skeleton*.
The skeleton of a rendered document can be written down from its *shape* alone, that is, from which
parts there are (`Shape.skeleton`), and it is balanced because it is put together from elements.
The texts of the document are found again in the places that were blanked.

The proof has a form of the page in between, the tags it is made of (`Html.pageTags`).  Spelling
those tags out gives the page, and reading what has been spelt out gives the tags back.
-/

set_option autoImplicit false

namespace ConfigDocs

open ConfigDocs.Text (replaceAll segments segments_append_cons segments_append_flatMap
  segments_of_notMem)

/-! ## Shapes -/

/-- What a cell holds. -/
inductive CellKind where
  /-- A plain text. -/
  | text
  /-- A link. -/
  | link
deriving DecidableEq, Repr

/-- The kind of a cell. -/
def Cell.kind : Cell → CellKind
  | .text _ => .text
  | .link _ _ => .link

/-- The texts in a cell: the text, after the target if it is a link. -/
def Cell.texts : Cell → List String
  | .text s => [s]
  | .link target s => [target, s]

/-- Which parts a document has. -/
structure Shape where
  /-- Whether there is a secondary heading. -/
  subtitle : Bool
  /-- Whether there is a summary that says anything. -/
  summary : Bool
  /-- The number of column labels. -/
  columns : Nat
  /-- The kinds of the cells in each row. -/
  rows : List (List CellKind)
deriving DecidableEq, Repr

namespace Document

/-- The summary, unless it is empty. -/
def shownSummary (d : Document) : Option String :=
  d.summary.filter fun s ↦ !s.isEmpty

/-- The shape of a document. -/
def shape (d : Document) : Shape where
  subtitle := d.subtitle.isSome
  summary := d.shownSummary.isSome
  columns := d.table.header.length
  rows := d.table.rows.map fun cells ↦ cells.map Cell.kind

/-- The texts of a document in the order in which a page shows them.  The title comes twice, once
for the window and once for the heading. -/
def pageTexts (d : Document) : List String :=
  d.title :: d.title :: (d.subtitle.toList ++ (d.shownSummary.toList ++
    (d.table.header ++ d.table.rows.flatMap fun cells ↦ cells.flatMap Cell.texts)))

end Document

namespace Html

/-! ## Entities -/

/-- The text with each of the five entities read as the character it stands for.  What an entity
stands for is not read again. -/
def decode : List Char → List Char
  | '&' :: 'a' :: 'm' :: 'p' :: ';' :: rest => '&' :: decode rest
  | '&' :: 'l' :: 't' :: ';' :: rest => '<' :: decode rest
  | '&' :: 'g' :: 't' :: ';' :: rest => '>' :: decode rest
  | '&' :: 'q' :: 'u' :: 'o' :: 't' :: ';' :: rest => '"' :: decode rest
  | '&' :: '#' :: '3' :: '9' :: ';' :: rest => '\'' :: decode rest
  | c :: rest => c :: decode rest
  | [] => []

theorem decode_cons {c : Char} (hc : c ≠ '&') (rest : List Char) :
    decode (c :: rest) = c :: decode rest := by
  rw [decode] <;> simp [hc]

theorem decode_entity_append (c : Char) (rest : List Char) :
    decode (entity c ++ rest) = c :: decode rest := by
  unfold entity
  split_ifs with hamp hlt hgt hquot hapos
  · subst hamp
    rfl
  · subst hlt
    rfl
  · subst hgt
    rfl
  · subst hquot
    rfl
  · subst hapos
    rfl
  · exact decode_cons hamp rest

/-- Decoding gives back what was escaped. -/
theorem decode_escape (s : String) : decode (escape s) = s.toList := by
  unfold escape
  induction s.toList with
  | nil => rfl
  | cons c cs ih => rw [List.flatMap_cons, decode_entity_append, ih]

/-- Replacing a single character by a text is done character by character. -/
theorem replaceAll_singleton (c : Char) (by' s : List Char) :
    replaceAll [c] by' s = s.flatMap fun d ↦ if d = c then by' else [d] := by
  unfold replaceAll
  induction s with
  | nil => rfl
  | cons d rest ih =>
    by_cases h : d = c
    · subst h
      simp [Text.replaceFrom, ih]
    · simp [Text.replaceFrom, ih, h, Ne.symm h]

/-- Escaping is replacing one character after the other in the whole text.  The ampersand has to be
the first, because the entities of the others begin with one. -/
theorem escape_eq_replaceAll (s : String) :
    escape s =
      replaceAll ['\''] "&#39;".toList (replaceAll ['"'] "&quot;".toList
        (replaceAll ['>'] "&gt;".toList (replaceAll ['<'] "&lt;".toList
          (replaceAll ['&'] "&amp;".toList s.toList)))) := by
  simp only [replaceAll_singleton, List.flatMap_assoc, escape]
  refine congrArg (List.flatMap · s.toList) (funext fun c ↦ ?_)
  unfold entity
  split_ifs with hamp hlt hgt hquot hapos
  · rfl
  · subst hlt
    rfl
  · subst hgt
    rfl
  · subst hquot
    rfl
  · subst hapos
    rfl
  · simp only [List.flatMap_cons, List.flatMap_nil, List.append_nil, if_neg hlt, if_neg hgt,
      if_neg hquot, if_neg hapos]

/-! ## Tags -/

/-- The text holds none of the characters at which a page is cut. -/
structure Plain (s : List Char) : Prop where
  /-- No tag begins in it. -/
  less : '<' ∉ s
  /-- No tag ends in it. -/
  greater : '>' ∉ s
  /-- No value begins or ends in it. -/
  quote : '"' ∉ s

instance (s : List Char) : Decidable (Plain s) :=
  decidable_of_iff ('<' ∉ s ∧ '>' ∉ s ∧ '"' ∉ s)
    ⟨fun h ↦ ⟨h.1, h.2.1, h.2.2⟩, fun h ↦ ⟨h.less, h.greater, h.quote⟩⟩

theorem Plain.nil : Plain [] :=
  ⟨List.not_mem_nil, List.not_mem_nil, List.not_mem_nil⟩

theorem Plain.of_subset {s t : List Char} (h : Plain t) (hsub : s ⊆ t) : Plain s :=
  ⟨fun hc ↦ h.less (hsub hc), fun hc ↦ h.greater (hsub hc), fun hc ↦ h.quote (hsub hc)⟩

/-- An escaped text cannot be cut. -/
theorem plain_escape (s : String) : Plain (escape s) := by
  have hentity : ∀ c d : Char, d ∈ entity c → d ≠ '<' ∧ d ≠ '>' ∧ d ≠ '"' := by
    intro c d hd
    unfold entity at hd
    split_ifs at hd <;> simp at hd <;> grind
  have hescape : ∀ d ∈ escape s, d ≠ '<' ∧ d ≠ '>' ∧ d ≠ '"' := by
    intro d hd
    obtain ⟨c, -, hc⟩ := List.mem_flatMap.1 hd
    exact hentity c d hc
  exact ⟨fun h ↦ (hescape _ h).1 rfl, fun h ↦ (hescape _ h).2.1 rfl, fun h ↦ (hescape _ h).2.2 rfl⟩

/-- A tag, cut at its quotes, with the text that follows it up to the next tag. -/
structure Tag where
  /-- What stands in the tag before the first value. -/
  head : List Char
  /-- Each value, and what stands in the tag behind it. -/
  values : List (List Char × List Char) := []
  /-- The text behind the tag. -/
  text : List Char := []
deriving DecidableEq, Repr

namespace Tag

/-- The name of a tag, with the slash of a closing tag. -/
def name (t : Tag) : List Char :=
  t.head.takeWhile (· != ' ')

/-- What stands between the angle brackets. -/
def inside (t : Tag) : List Char :=
  t.head ++ t.values.flatMap fun v ↦ '"' :: (v.1 ++ '"' :: v.2)

/-- The tag and the text behind it as they are written. -/
def spell (t : Tag) : List Char :=
  '<' :: (t.inside ++ '>' :: t.text)

/-- The tag without its values and without the text behind it. -/
def blank (t : Tag) : Tag :=
  { t with values := t.values.map fun v ↦ ([], v.2), text := [] }

/-- No part of the tag can be cut any further. -/
structure Clean (t : Tag) : Prop where
  /-- The head cannot. -/
  head : Plain t.head
  /-- No value can, nor what follows it. -/
  values : ∀ v ∈ t.values, Plain v.1 ∧ Plain v.2
  /-- The text behind the tag cannot. -/
  text : Plain t.text

end Tag

/-! ## Reading a page -/

/-- The members of a list two by two. -/
def pairs? {α : Type} : List α → Option (List (α × α))
  | [] => some []
  | [_] => none
  | first :: second :: rest => (pairs? rest).map ((first, second) :: ·)

/-- Reads what follows an opening angle bracket up to the next one. -/
def readTag? (s : List Char) : Option Tag :=
  match segments '>' s with
  | [inside, text] =>
    if '"' ∈ text then none
    else
      match segments '"' inside with
      | head :: more => (pairs? more).map fun values ↦ ⟨head, values, text⟩
      | [] => none
  | _ => none

/-- The tags of a page, each with the text behind it.  There are none if an angle bracket or a quote
is out of place. -/
def readPage? (s : List Char) : Option (List Tag) :=
  match segments '<' s with
  | [] :: stretches => stretches.mapM readTag?
  | _ => none

theorem segments_inside {t : Tag} (h : t.Clean) :
    segments '"' t.inside = t.head :: t.values.flatMap fun v ↦ [v.1, v.2] := by
  have hpieces : ∀ s ∈ t.values.flatMap fun v ↦ [v.1, v.2], '"' ∉ s := by
    intro s hs
    obtain ⟨v, hv, hmem⟩ := List.mem_flatMap.1 hs
    simp only [List.mem_cons, List.not_mem_nil, or_false] at hmem
    rcases hmem with rfl | rfl
    · exact (h.values v hv).1.quote
    · exact (h.values v hv).2.quote
  have hcut := segments_append_flatMap h.head.quote hpieces
  simpa [Tag.inside, List.flatMap_assoc] using hcut

theorem pairs?_flatMap {α : Type} (values : List (α × α)) :
    pairs? (values.flatMap fun v ↦ [v.1, v.2]) = some values := by
  induction values with
  | nil => rfl
  | cons v values ih => simp [pairs?, ih]

theorem Tag.Clean.notMem_inside {t : Tag} (h : t.Clean) : '<' ∉ t.inside ∧ '>' ∉ t.inside := by
  constructor
  · intro hmem
    rcases List.mem_append.1 hmem with hhead | hvalues
    · exact h.head.less hhead
    · obtain ⟨v, hv, hc⟩ := List.mem_flatMap.1 hvalues
      have hplain := h.values v hv
      simp [hplain.1.less, hplain.2.less] at hc
  · intro hmem
    rcases List.mem_append.1 hmem with hhead | hvalues
    · exact h.head.greater hhead
    · obtain ⟨v, hv, hc⟩ := List.mem_flatMap.1 hvalues
      have hplain := h.values v hv
      simp [hplain.1.greater, hplain.2.greater] at hc

theorem readTag?_clean {t : Tag} (h : t.Clean) :
    readTag? (t.inside ++ '>' :: t.text) = some t := by
  unfold readTag?
  rw [segments_append_cons h.notMem_inside.2, segments_of_notMem h.text.greater]
  simp [h.text.quote, segments_inside h, pairs?_flatMap]

/-- **Reading gives back the tags that were spelt out.** -/
theorem readPage?_spell {tags : List Tag} (h : ∀ t ∈ tags, t.Clean) :
    readPage? (tags.flatMap Tag.spell) = some tags := by
  have hcut : segments '<' (tags.flatMap Tag.spell) =
      [] :: tags.map fun t ↦ t.inside ++ '>' :: t.text := by
    have hpieces : ∀ s ∈ tags.map fun t ↦ t.inside ++ '>' :: t.text, '<' ∉ s := by
      intro s hs
      obtain ⟨t, ht, rfl⟩ := List.mem_map.1 hs
      simp [(h t ht).notMem_inside.1, (h t ht).text.less]
    have hcut := segments_append_flatMap List.not_mem_nil hpieces
    rwa [List.nil_append, List.flatMap_map] at hcut
  have hread : (tags.map fun t ↦ t.inside ++ '>' :: t.text).mapM readTag? = some tags := by
    clear hcut
    induction tags with
    | nil => rfl
    | cons t tags ih =>
      rw [List.forall_mem_cons] at h
      simp [readTag?_clean h.1, ih h.2]
  unfold readPage?
  rw [hcut]
  exact hread

/-! ## Elements and balance -/

/-- The tag that closes another, with the text behind it. -/
def Tag.closing (t : Tag) (after : List Char) : Tag :=
  { head := '/' :: t.name, text := after }

/-- An opening tag with some text behind it, what is within, and the closing tag with some text
behind it. -/
def element (head : String) (text : List Char) (inner : List Tag) (after : List Char) : List Tag :=
  let opening : Tag := { head := head.toList, text }
  opening :: (inner ++ [opening.closing after])

/-- The tags that nothing closes. -/
def standalone : List (List Char) :=
  ["!DOCTYPE".toList, "meta".toList]

/-- Whether tags close all that is open and all that they open, the innermost first. -/
def closes : List (List Char) → List Tag → Bool
  | opened, [] => opened.isEmpty
  | opened, t :: rest =>
    match t.head, opened with
    | '/' :: name, innermost :: outer => name == innermost && closes outer rest
    | '/' :: _, [] => false
    | _, _ => if t.name ∈ standalone then closes opened rest else closes (t.name :: opened) rest

/-- Every element is closed, and elements do not overlap. -/
def Balanced (tags : List Tag) : Prop :=
  closes [] tags = true

/-- Tags that leave open what is open, and nothing else. -/
def Neutral (tags : List Tag) : Prop :=
  ∀ opened rest, closes opened (tags ++ rest) = closes opened rest

theorem Neutral.nil : Neutral [] := fun _ _ ↦ rfl

theorem Neutral.append {first second : List Tag} (hfirst : Neutral first)
    (hsecond : Neutral second) : Neutral (first ++ second) := by
  intro opened rest
  rw [List.append_assoc, hfirst, hsecond]

theorem Neutral.flatMap {α : Type} {xs : List α} {f : α → List Tag}
    (h : ∀ x ∈ xs, Neutral (f x)) : Neutral (xs.flatMap f) := by
  induction xs with
  | nil => exact .nil
  | cons x xs ih =>
    rw [List.forall_mem_cons] at h
    exact h.1.append (ih h.2)

theorem Neutral.balanced {tags : List Tag} (h : Neutral tags) : Balanced tags := by
  have hall := h [] []
  rwa [List.append_nil] at hall

/-- Whether a tag with this head is to be closed. -/
def opens (head : List Char) : Bool :=
  head.head? != some '/' && !standalone.contains (head.takeWhile (· != ' '))

theorem closes_opening {t : Tag} (h : opens t.head = true) (opened : List (List Char))
    (rest : List Tag) : closes opened (t :: rest) = closes (t.name :: opened) rest := by
  simp only [opens, Bool.and_eq_true, bne_iff_ne, Bool.not_eq_true', List.contains_eq_mem,
    decide_eq_false_iff_not] at h
  rw [closes]
  · exact if_neg h.2
  · intro name innermost outer hhead
    simp [hhead] at h
  · intro name hhead
    simp [hhead] at h

theorem closes_closing (t : Tag) (after : List Char) (opened : List (List Char))
    (rest : List Tag) :
    closes (t.name :: opened) (t.closing after :: rest) = closes opened rest := by
  simp [closes, Tag.closing]

/-- An element is neutral if what is within it is. -/
theorem Neutral.element {head : String} {text after : List Char} {inner : List Tag}
    (hopens : opens head.toList = true) (hinner : Neutral inner) :
    Neutral (element head text inner after) := by
  intro opened rest
  rw [Html.element, List.cons_append, closes_opening hopens, List.append_assoc, hinner]
  exact closes_closing ..

/-! ## Skeletons -/

/-- The tags of a cell of a kind. -/
def cellSkeleton : CellKind → List Tag
  | .text => element "td" [] [] []
  | .link => element "td" [] (
      [{ head := "a href=".toList, values := [([], [])] }, { head := "/a".toList }]) []

/-- The tags of a row with cells of these kinds. -/
def rowSkeleton (kinds : List CellKind) : List Tag :=
  element "tr" [] (kinds.flatMap cellSkeleton) []

/-- The tags of so many column labels. -/
def labelSkeletons (columns : Nat) : List Tag :=
  (List.replicate columns (element "th" [] [] [])).flatMap id

/-- The tags of a table. -/
def tableSkeleton (columns : Nat) (rows : List (List CellKind)) : List Tag :=
  element "table" [] (
    element "thead" [] (element "tr" [] (labelSkeletons columns) []) [] ++
    element "tbody" [] (rows.flatMap rowSkeleton) []) []

/-- The tags of a part that may be absent. -/
def optionalSkeleton (name : String) (present : Bool) : List Tag :=
  if present then element name [] [] [] else []

/-- The tags that come before the content of a page. -/
def headSkeleton : List Tag :=
  element "head" [] (
    { head := "meta charset=".toList, values := [([], [])] } :: element "title" [] [] []) []

/-- The tags of the content of a page. -/
def bodySkeleton (shape : Shape) : List Tag :=
  element "body" [] (element "h1" [] [] [] ++ (optionalSkeleton "h2" shape.subtitle ++
    (optionalSkeleton "p" shape.summary ++ tableSkeleton shape.columns shape.rows))) []

end Html

open Html in
/-- The tags of a page for documents of a shape, with nothing in the blanked places. -/
def Shape.skeleton (shape : Shape) : List Tag :=
  { head := "!DOCTYPE html".toList } ::
    element "html" [] (headSkeleton ++ bodySkeleton shape) []

namespace Html

theorem neutral_cellSkeleton (kind : CellKind) : Neutral (cellSkeleton kind) := by
  cases kind with
  | text => exact .element rfl .nil
  | link =>
    refine .element rfl fun opened rest ↦ ?_
    rw [List.cons_append, closes_opening rfl]
    exact closes_closing ..

theorem neutral_tableSkeleton (columns : Nat) (rows : List (List CellKind)) :
    Neutral (tableSkeleton columns rows) := by
  have hlabels : Neutral (labelSkeletons columns) := by
    refine .flatMap fun tags htags ↦ ?_
    rw [List.eq_of_mem_replicate htags]
    exact .element rfl .nil
  have hrows : Neutral (rows.flatMap rowSkeleton) :=
    .flatMap fun kinds _ ↦ .element rfl (.flatMap fun kind _ ↦ neutral_cellSkeleton kind)
  exact .element rfl ((Neutral.element rfl (.element rfl hlabels)).append (.element rfl hrows))

theorem neutral_optionalSkeleton {name : String} (h : opens name.toList = true) (present : Bool) :
    Neutral (optionalSkeleton name present) := by
  cases present with
  | false => exact .nil
  | true => exact .element h .nil

theorem neutral_headSkeleton : Neutral headSkeleton := by
  have htitle : Neutral (element "title" [] [] []) := .element rfl .nil
  exact .element rfl fun opened rest ↦ htitle opened rest

theorem neutral_bodySkeleton (shape : Shape) : Neutral (bodySkeleton shape) := by
  have hheading : Neutral (element "h1" [] [] []) := .element rfl .nil
  exact .element rfl (hheading.append ((neutral_optionalSkeleton rfl _).append
    ((neutral_optionalSkeleton rfl _).append (neutral_tableSkeleton _ _))))

/-- The skeleton is balanced, whatever the shape. -/
theorem balanced_skeleton (shape : Shape) : Balanced shape.skeleton := by
  have hhtml : Neutral (element "html" [] (headSkeleton ++ bodySkeleton shape) []) :=
    .element rfl (neutral_headSkeleton.append (neutral_bodySkeleton shape))
  exact hhtml.balanced

/-! ## What stands in the blanked places -/

/-- The elements that are there to hold a text. -/
def leaves : List (List Char) :=
  ["title".toList, "h1".toList, "h2".toList, "p".toList, "th".toList, "td".toList, "a".toList]

/-- What stands in each blanked place, and whether that is a text of the document.  It is in the
value of a link, and between the tags of an element that is there to hold a text and holds no other
element. -/
def places : List Tag → List (Bool × List Char)
  | [] => []
  | t :: rest =>
    t.values.map (fun v ↦ (t.name == ['a'], v.1)) ++
      (leaves.contains t.name && rest.head?.map Tag.head == some ('/' :: t.name), t.text) ::
        places rest

/-- The texts of the document among what has been blanked. -/
def contents (tags : List Tag) : List (List Char) :=
  (places tags).filterMap fun place ↦ if place.1 then some place.2 else none

/-- What else has been blanked. -/
def layout (tags : List Tag) : List (List Char) :=
  (places tags).filterMap fun place ↦ if place.1 then none else some place.2

/-- The texts that are the same on every page. -/
def fixedTexts : List (List Char) :=
  [[], ['\n'], "utf-8".toList]

theorem plain_of_mem_fixedTexts {s : List Char} (h : s ∈ fixedTexts) : Plain s := by
  simp only [fixedTexts, List.mem_cons, List.not_mem_nil, or_false] at h
  rcases h with rfl | rfl | rfl <;> decide

/-- Tags have a skeleton, and its blanked places hold these texts. -/
structure Fills (tags skeleton : List Tag) (texts : List String) : Prop where
  /-- Nothing in the tags can be cut any further. -/
  clean : ∀ t ∈ tags, t.Clean
  /-- Blanked, they are the skeleton. -/
  blank : tags.map Tag.blank = skeleton
  /-- The contents are the texts, whatever tags follow. -/
  texts_eq : ∀ rest, (contents (tags ++ rest)).map decode =
    texts.map String.toList ++ (contents rest).map decode
  /-- All else is the same on every page. -/
  fixed : ∀ rest, ∀ s ∈ layout (tags ++ rest), s ∈ fixedTexts ∨ s ∈ layout rest

/-- What is written consists of tags with a skeleton, and its blanked places hold these texts. -/
def Writes (s : List Char) (skeleton : List Tag) (texts : List String) : Prop :=
  ∃ tags, tags.flatMap Tag.spell = s ∧ Fills tags skeleton texts

theorem Fills.nil : Fills [] [] [] where
  clean := by simp
  blank := rfl
  texts_eq := by simp
  fixed := by
    intro rest s hs
    exact .inr hs

theorem Fills.append {tags tags' skeleton skeleton' : List Tag} {texts texts' : List String}
    (h : Fills tags skeleton texts) (h' : Fills tags' skeleton' texts') :
    Fills (tags ++ tags') (skeleton ++ skeleton') (texts ++ texts') where
  clean := by
    intro t ht
    rcases List.mem_append.1 ht with ht | ht
    · exact h.clean t ht
    · exact h'.clean t ht
  blank := by rw [List.map_append, h.blank, h'.blank]
  texts_eq := by
    intro rest
    rw [List.append_assoc, h.texts_eq, h'.texts_eq, List.map_append, List.append_assoc]
  fixed := by
    intro rest s hs
    rw [List.append_assoc] at hs
    rcases h.fixed _ s hs with hs | hs
    · exact .inl hs
    · exact h'.fixed rest s hs

/-- A tag that holds no text of the document. -/
theorem Fills.single {t : Tag} (hclean : t.Clean) (hname : t.name ∉ leaves)
    (hvalues : ∀ v ∈ t.values, v.1 ∈ fixedTexts) (htext : t.text ∈ fixedTexts) :
    Fills [t] [t.blank] [] := by
  have hlink : (t.name == ['a']) = false := by
    rw [beq_eq_false_iff_ne]
    intro h
    exact hname (by simp [h, leaves])
  refine ⟨by simpa using hclean, rfl, fun rest ↦ ?_, fun rest s hs ↦ ?_⟩
  · simp [contents, places, hname, hlink, List.filterMap_map]
  · have hs : s ∈ t.values.map Prod.fst ++ t.text :: layout rest := by
      simpa [layout, places, hname, hlink, List.filterMap_map, Function.comp_def] using hs
    rcases List.mem_append.1 hs with hvalue | hs
    · obtain ⟨v, hv, rfl⟩ := List.mem_map.1 hvalue
      exact .inl (hvalues v hv)
    · rcases List.mem_cons.1 hs with rfl | hs
      · exact .inl htext
      · exact .inr hs

theorem Fills.closing {t : Tag} {after : List Char} (hhead : Plain t.head)
    (hafter : after ∈ fixedTexts) : Fills [t.closing after] [t.closing []] [] := by
  have hclean : (t.closing after).Clean := by
    have hname : Plain t.name := hhead.of_subset (List.takeWhile_subset _)
    refine ⟨⟨?_, ?_, ?_⟩, by simp [Tag.closing], plain_of_mem_fixedTexts hafter⟩
    · simpa [Tag.closing] using hname.less
    · simpa [Tag.closing] using hname.greater
    · simpa [Tag.closing] using hname.quote
  have hname : (t.closing after).name ∉ leaves := by
    simp [Tag.name, Tag.closing, leaves]
  exact .single hclean hname (by simp [Tag.closing]) hafter

/-- An element that is there to hold a text, with nothing else in it.  A link has a target too. -/
theorem Fills.leaf {t : Tag} {after : List Char} {targets : List String} {s : String}
    (hhead : Plain t.head) (hname : t.name ∈ leaves) (htargets : targets = [] ∨ t.name = ['a'])
    (hvalues : t.values = targets.map fun target ↦ (escape target, [])) (htext : t.text = escape s)
    (hafter : after ∈ fixedTexts) :
    Fills [t, t.closing after] [t.blank, t.closing []] (targets ++ [s]) := by
  have hclosing : Fills [t.closing after] [t.closing []] [] := .closing hhead hafter
  have hplaces : ∀ rest, places (t :: t.closing after :: rest) =
      targets.map (fun target ↦ (true, escape target)) ++
        (true, escape s) :: places (t.closing after :: rest) := by
    intro rest
    rw [places, hvalues, htext]
    rcases htargets with rfl | hlink
    · simp [hname, Tag.closing]
    · simp [hlink, leaves, Tag.closing]
  refine ⟨?_, ?_, fun rest ↦ ?_, fun rest u hu ↦ ?_⟩
  · intro u hu
    rcases List.mem_cons.1 hu with rfl | hu
    · refine ⟨hhead, fun v hv ↦ ?_, htext ▸ plain_escape s⟩
      rw [hvalues] at hv
      obtain ⟨target, -, rfl⟩ := List.mem_map.1 hv
      exact ⟨plain_escape target, .nil⟩
    · exact hclosing.clean u hu
  · rw [List.map_cons, hclosing.blank]
  · have hrest := hclosing.texts_eq rest
    simp only [contents, List.singleton_append, List.map_nil, List.nil_append] at hrest
    simp [contents, hplaces, hrest, decode_escape, List.filterMap_map, Function.comp_def]
  · refine hclosing.fixed rest u ?_
    simpa [layout, hplaces, List.filterMap_map, Function.comp_def] using hu

/-- A tag with no text of the document behind it, because another tag opens there. -/
theorem Fills.cons {t u : Tag} {tags skeleton : List Tag} {texts : List String}
    (hhead : Plain t.head) (hvalues : t.values = []) (htext : t.text = [])
    (hnext : u.head ≠ '/' :: t.name) (h : Fills (u :: tags) skeleton texts) :
    Fills (t :: u :: tags) (t.blank :: skeleton) texts := by
  have hplaces : ∀ rest,
      places (t :: (u :: tags ++ rest)) = (false, []) :: places (u :: tags ++ rest) := by
    intro rest
    simp [places, hvalues, htext, hnext]
  refine ⟨?_, ?_, fun rest ↦ ?_, fun rest s hs ↦ ?_⟩
  · rw [List.forall_mem_cons]
    exact ⟨⟨hhead, by simp [hvalues], htext ▸ .nil⟩, h.clean⟩
  · rw [List.map_cons, h.blank]
  · rw [← h.texts_eq, List.cons_append, contents, hplaces]
    simp [contents]
  · rw [List.cons_append, layout, hplaces] at hs
    rcases List.mem_cons.1 hs with rfl | hs
    · exact .inl (List.mem_cons_self ..)
    · exact h.fixed rest s hs

/-- An element that holds only what is within it. -/
theorem Fills.frame (head : String) {text after : List Char} {tags skeleton : List Tag}
    {texts : List String} (hhead : Plain head.toList)
    (hname : head.toList.takeWhile (· != ' ') ∉ leaves) (htext : text ∈ fixedTexts)
    (hafter : after ∈ fixedTexts) (h : Fills tags skeleton texts) :
    Fills (element head text tags after) (element head [] skeleton []) texts := by
  have hopening : Fills [{ head := head.toList, text }] [{ head := head.toList }] [] :=
    .single ⟨hhead, by simp, plain_of_mem_fixedTexts htext⟩ hname (by simp) htext
  have hinner := h.append (Fills.closing (t := { head := head.toList, text }) hhead hafter)
  rw [List.append_nil] at hinner
  exact hopening.append hinner

theorem Writes.nil : Writes [] [] [] :=
  ⟨[], rfl, .nil⟩

theorem Writes.append {s s' : List Char} {skeleton skeleton' : List Tag}
    {texts texts' : List String} (h : Writes s skeleton texts) (h' : Writes s' skeleton' texts') :
    Writes (s ++ s') (skeleton ++ skeleton') (texts ++ texts') := by
  obtain ⟨tags, rfl, hfills⟩ := h
  obtain ⟨tags', rfl, hfills'⟩ := h'
  exact ⟨tags ++ tags', List.flatMap_append, hfills.append hfills'⟩

theorem Writes.flatMap {α β : Type} {f : α → List Char} {key : α → β} {skeleton : β → List Tag}
    {texts : α → List String} (h : ∀ x, Writes (f x) (skeleton (key x)) (texts x)) (xs : List α) :
    Writes (xs.flatMap f) ((xs.map key).flatMap skeleton) (xs.flatMap texts) := by
  induction xs with
  | nil => exact .nil
  | cons x xs ih => exact (h x).append ih

/-- What is written for an element. -/
theorem Writes.frame (head : String) {text after s : List Char} {skeleton : List Tag}
    {texts : List String} (hhead : Plain head.toList)
    (hname : head.toList.takeWhile (· != ' ') ∉ leaves) (htext : text ∈ fixedTexts)
    (hafter : after ∈ fixedTexts) (h : Writes s skeleton texts) :
    Writes ('<' :: (head.toList ++ '>' :: (text ++ (s ++
      '<' :: '/' :: (head.toList.takeWhile (· != ' ') ++ '>' :: after)))))
      (element head [] skeleton []) texts := by
  obtain ⟨tags, rfl, hfills⟩ := h
  refine ⟨_, ?_, hfills.frame head hhead hname htext hafter⟩
  simp [element, Tag.spell, Tag.inside, Tag.closing, Tag.name]

/-! ## What is written for each part of a document -/

/-- What is written for an element that holds one text. -/
theorem writes_leaf (head : String) {after : List Char} (s : String) (hhead : Plain head.toList)
    (hname : head.toList.takeWhile (· != ' ') ∈ leaves) (hafter : after ∈ fixedTexts) :
    Writes ('<' :: (head.toList ++ '>' :: (escape s ++
      '<' :: '/' :: (head.toList.takeWhile (· != ' ') ++ '>' :: after))))
      (element head [] [] []) [s] := by
  have hfills : Fills (element head (escape s) [] after) (element head [] [] []) ([] ++ [s]) :=
    .leaf hhead hname (.inl rfl) rfl rfl hafter
  refine ⟨_, ?_, hfills⟩
  simp [element, Tag.spell, Tag.inside, Tag.closing, Tag.name]

theorem writes_linkCell (target s : String) :
    Writes (cell (.link target s)) (cellSkeleton .link) [target, s] := by
  have hanchor : Fills
      [⟨"a href=".toList, [(escape target, [])], escape s⟩, { head := "/a".toList }]
      [⟨"a href=".toList, [([], [])], []⟩, { head := "/a".toList }] ([target] ++ [s]) :=
    .leaf (show Plain "a href=".toList by decide) (show "a".toList ∈ leaves by decide) (.inr rfl)
      rfl rfl (by decide)
  have hclosing : Fills [{ head := "/td".toList }] [{ head := "/td".toList }] [] :=
    Fills.closing (t := { head := "td".toList }) (by decide) (by decide)
  have hcell := (hanchor.append hclosing).cons (t := { head := "td".toList }) (by decide) rfl rfl
    (show "a href=".toList ≠ "/td".toList by decide)
  refine ⟨_, ?_, hcell⟩
  unfold cell content link
  simp only [Tag.spell, Tag.inside, List.flatMap_cons, List.flatMap_nil, List.cons_append,
    List.nil_append, List.append_nil, List.append_assoc]
  rfl

theorem writes_cell (c : Cell) : Writes (cell c) (cellSkeleton c.kind) c.texts := by
  cases c with
  | text s => exact writes_leaf "td" s (by decide) (by decide) (by decide)
  | link target s => exact writes_linkCell target s

theorem writes_row (cells : Row) :
    Writes (row cells) (rowSkeleton (cells.map Cell.kind)) (cells.flatMap Cell.texts) :=
  (Writes.flatMap writes_cell cells).frame "tr" (by decide) (by decide) (by decide) (by decide)

theorem writes_header (labels : List String) :
    Writes (header labels)
      (element "thead" [] (element "tr" [] (labelSkeletons labels.length) []) []) labels := by
  have hlabel : ∀ label, Writes (headerCell label) (id (element "th" [] [] [])) [label] :=
    fun label ↦ writes_leaf "th" label (by decide) (by decide) (by decide)
  have hlabels : Writes (headerRow labels) (labelSkeletons labels.length) labels := by
    have hall := Writes.flatMap hlabel labels
    rwa [List.map_const', List.flatMap_singleton'] at hall
  have hrow : Writes ("<tr>".toList ++ (headerRow labels ++ "</tr>\n".toList))
      (element "tr" [] (labelSkeletons labels.length) []) labels :=
    hlabels.frame "tr" (by decide) (by decide) (by decide) (by decide)
  have hall : Writes ("<thead>\n".toList ++
      (("<tr>".toList ++ (headerRow labels ++ "</tr>\n".toList)) ++ "</thead>\n".toList))
      (element "thead" [] (element "tr" [] (labelSkeletons labels.length) []) []) labels :=
    hrow.frame "thead" (by decide) (by decide) (by decide) (by decide)
  simp only [List.append_assoc] at hall
  exact hall

theorem writes_table (t : Table) :
    Writes (table t) (tableSkeleton t.header.length (t.rows.map fun cells ↦ cells.map Cell.kind))
      (t.header ++ t.rows.flatMap fun cells ↦ cells.flatMap Cell.texts) := by
  have hbody : Writes (body t.rows)
      (element "tbody" [] ((t.rows.map fun cells ↦ cells.map Cell.kind).flatMap rowSkeleton) [])
      (t.rows.flatMap fun cells ↦ cells.flatMap Cell.texts) :=
    (Writes.flatMap writes_row t.rows).frame "tbody" (by decide) (by decide) (by decide) (by decide)
  have hall : Writes ("<table>\n".toList ++
      ((header t.header ++ body t.rows) ++ "</table>\n".toList))
      (tableSkeleton t.header.length (t.rows.map fun cells ↦ cells.map Cell.kind)) _ :=
    ((writes_header t.header).append hbody).frame "table" (by decide) (by decide) (by decide)
      (by decide)
  rw [List.append_assoc] at hall
  exact hall

theorem writes_subtitle (text : Option String) :
    Writes (text.toList.flatMap subtitle) (optionalSkeleton "h2" text.isSome) text.toList := by
  cases text with
  | none => exact .nil
  | some s =>
    have hwrites : Writes (subtitle s) (element "h2" [] [] []) [s] :=
      writes_leaf "h2" s (by decide) (by decide) (by decide)
    simpa [optionalSkeleton] using hwrites

/-- A summary is shown unless it is empty. -/
theorem writes_summary (text : Option String) :
    Writes (text.toList.flatMap summary)
      (optionalSkeleton "p" (text.filter fun s ↦ !s.isEmpty).isSome)
      (text.filter fun s ↦ !s.isEmpty).toList := by
  cases text with
  | none => exact .nil
  | some s =>
    cases hs : s.isEmpty with
    | true => simpa [optionalSkeleton, summary, hs, Option.filter] using Writes.nil
    | false =>
      have hwrites : Writes ("<p>".toList ++ (escape s ++ "</p>\n".toList))
          (element "p" [] [] []) [s] :=
        writes_leaf "p" s (by decide) (by decide) (by decide)
      simpa [optionalSkeleton, summary, hs, Option.filter] using hwrites

/-- What is written for a tag that is not closed. -/
theorem writes_standalone {t : Tag} (hclean : t.Clean) (hname : t.name ∉ leaves)
    (hvalues : ∀ v ∈ t.values, v.1 ∈ fixedTexts) (htext : t.text ∈ fixedTexts) :
    Writes t.spell [t.blank] [] :=
  ⟨[t], List.flatMap_singleton .., .single hclean hname hvalues htext⟩

/-- The head of a page, with the title in it. -/
def pageHead (text : String) : List Char :=
  "<head>\n".toList ++ (("<meta charset=\"utf-8\">\n".toList ++
    ("<title>".toList ++ (escape text ++ "</title>\n".toList))) ++ "</head>\n".toList)

/-- The content of a page. -/
def pageBody (d : Document) : List Char :=
  "<body>\n".toList ++ ((title d.title ++ (d.subtitle.toList.flatMap subtitle ++
    (d.summary.toList.flatMap summary ++ table d.table))) ++ "</body>\n".toList)

/-- A page consists of its head and its content. -/
theorem document_eq (d : Document) :
    document d = "<!DOCTYPE html>\n".toList ++
      ("<html>\n".toList ++ ((pageHead d.title ++ pageBody d) ++ "</html>\n".toList)) := by
  unfold document opening pageHead pageBody
  simp only [List.append_assoc]
  rfl

theorem writes_pageHead (text : String) : Writes (pageHead text) headSkeleton [text] := by
  have htitle : Writes ("<title>".toList ++ (escape text ++ "</title>\n".toList))
      (element "title" [] [] []) [text] :=
    writes_leaf "title" text (by decide) (by decide) (by decide)
  have hmeta : Writes "<meta charset=\"utf-8\">\n".toList
      [{ head := "meta charset=".toList, values := [([], [])] }] [] :=
    writes_standalone (t := ⟨"meta charset=".toList, [("utf-8".toList, [])], ['\n']⟩)
      ⟨by decide, by decide, by decide⟩ (by decide) (by decide) (by decide)
  exact (hmeta.append htitle).frame "head" (by decide) (by decide) (by decide) (by decide)

theorem writes_pageBody (d : Document) :
    Writes (pageBody d) (bodySkeleton d.shape)
      (d.title :: (d.subtitle.toList ++ (d.shownSummary.toList ++
        (d.table.header ++ d.table.rows.flatMap fun cells ↦ cells.flatMap Cell.texts)))) := by
  have htitle : Writes (title d.title) (element "h1" [] [] []) [d.title] :=
    writes_leaf "h1" d.title (by decide) (by decide) (by decide)
  have hcontent := htitle.append ((writes_subtitle d.subtitle).append
    ((writes_summary d.summary).append (writes_table d.table)))
  exact hcontent.frame "body" (by decide) (by decide) (by decide) (by decide)

/-- **The tags of a page are those of its shape, and its places hold the texts of the document.** -/
theorem writes_document (d : Document) : Writes (document d) d.shape.skeleton d.pageTexts := by
  have hdoctype : Writes "<!DOCTYPE html>\n".toList [{ head := "!DOCTYPE html".toList }] [] :=
    writes_standalone (t := { head := "!DOCTYPE html".toList, text := ['\n'] })
      ⟨by decide, by decide, by decide⟩ (by decide) (by decide) (by decide)
  have hpage := (writes_pageHead d.title).append (writes_pageBody d)
  have hhtml : Writes ("<html>\n".toList ++ ((pageHead d.title ++ pageBody d) ++
      "</html>\n".toList)) (element "html" [] (headSkeleton ++ bodySkeleton d.shape) [])
      d.pageTexts :=
    hpage.frame "html" (by decide) (by decide) (by decide) (by decide)
  rw [document_eq]
  exact hdoctype.append hhtml

end Html

theorem Document.toList_render_html (d : Document) : (d.render .html).toList = Html.document d := by
  simp [Document.render, Renderer.render, Renderer.clear, Renderer.visit, Buffer.visit, Format.ink,
    Buffer.text, Html.part]

open Html in
/-- **No text changes the markup of a page.**  A rendered page can be cut into tags, with every
angle bracket and every quote in a tag or around a value.  Its skeleton is a function of the shape
of the document, and balanced.  The blanked places hold the texts of the document, in order and with
their characters written as entities, and besides them only what is the same on every page. -/
theorem Document.markup_of_shape (d : Document) :
    ∃ page, readPage? (d.render .html).toList = some page ∧
      page.map Tag.blank = d.shape.skeleton ∧ Balanced d.shape.skeleton ∧
      (contents page).map decode = d.pageTexts.map String.toList ∧
      ∀ s ∈ layout page, s ∈ fixedTexts := by
  obtain ⟨page, hspell, hfills⟩ := writes_document d
  refine ⟨page, ?_, hfills.blank, balanced_skeleton d.shape, ?_, fun s hs ↦ ?_⟩
  · rw [toList_render_html, ← hspell]
    exact readPage?_spell hfills.clean
  · have htexts := hfills.texts_eq []
    simpa [contents, places] using htexts
  · have hfixed := hfills.fixed [] s
    rw [List.append_nil] at hfixed
    rcases hfixed hs with hs | hs
    · exact hs
    · cases hs

end ConfigDocs
