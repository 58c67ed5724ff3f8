import ConfigDocs.DocComment

/-!
# Patterns, and what a search for one finds

The two elements of a comment and the tags within them are described by patterns: a word whatever
its letter case, the edge of a word, a run of characters of some class.  A search for a pattern
goes by *preference*.  It begins as far to the left as it can, and of the ways to match there it
takes the first that works out: a greedy run is tried with all its characters first and a lazy one
with none, and where what follows fails, the next choice is tried.

`Pattern.first` is that backtracking search, told what is to follow a match; what follows may fail,
and then the search goes back.  It says what a pattern means and is not meant to be fast: the
functions that read comments make one pass over the text.  So what they find is compared with what
the patterns find, here for a word (`Pattern.first_literal`) and for a run up to a mark, be it
greedy (`Pattern.first_run_until`) or lazy (`Pattern.first_fewest_until`), and for the tags of a
text (`DocComment.replaceAll_tagPattern`).
-/

set_option autoImplicit false

namespace ConfigDocs.Text

/-! ## Patterns -/

/-- A pattern for texts, in which only single characters are repeated. -/
inductive Pattern where
  /-- Nothing. -/
  | empty
  /-- One character of a class. -/
  | char (p : Char → Bool)
  /-- No character, where a word begins or ends. -/
  | edge
  /-- Any number of characters of a class, as many as possible or as few. -/
  | run (greedy : Bool) (p : Char → Bool)
  /-- A pattern and another behind it. -/
  | seq (pattern next : Pattern)
  /-- A pattern whose text is wanted. -/
  | group (pattern : Pattern)

/-- How far a search has come. -/
structure Cursor where
  /-- The character before, if there is one. -/
  last : Option Char
  /-- What follows. -/
  rest : List Char
  /-- The text of the group, once it is matched. -/
  group : Option (List Char)

/-- The cursor with what has been read of a text, up to here, as the text of the group. -/
def Cursor.grouping (s : List Char) (behind : Cursor) : Cursor :=
  { behind with group := some (s.take (s.length - behind.rest.length)) }

namespace Pattern

variable {α : Type}

/-- Whether a word begins or ends between two characters; at the ends of a text, one is missing. -/
def isEdge (before after : Option Char) : Bool :=
  before.any isWordChar != after.any isWordChar

/-- The runs of characters of a class from here on, in order of preference, up to the first after
which `next` succeeds. -/
def firstRun (greedy : Bool) (p : Char → Bool) (next : Cursor → Option α)
    (group : Option (List Char)) : Option Char → List Char → Option α
  | last, [] => next ⟨last, [], group⟩
  | last, c :: rest =>
    let here := next ⟨last, c :: rest, group⟩
    if p c then
      let beyond := firstRun greedy p next group (some c) rest
      if greedy then beyond.or here else here.or beyond
    else here

/-- The first way in which the pattern matches here and `next` succeeds behind it. -/
def first : Pattern → (Cursor → Option α) → Cursor → Option α
  | .empty, next, here => next here
  | .char p, next, here =>
    match here.rest with
    | [] => none
    | c :: rest => if p c then next ⟨some c, rest, here.group⟩ else none
  | .edge, next, here => if isEdge here.last here.rest.head? then next here else none
  | .run greedy p, next, here => firstRun greedy p next here.group here.last here.rest
  | .seq pattern more, next, here => pattern.first (more.first next) here
  | .group pattern, next, here => pattern.first (fun behind ↦ next (behind.grouping here.rest)) here

/-- Where the preferred match that begins here ends. -/
def matchHere (pattern : Pattern) (last : Option Char) (s : List Char) : Option Cursor :=
  pattern.first some ⟨last, s, none⟩

/-- Where the leftmost match ends. -/
def find (pattern : Pattern) : Option Char → List Char → Option Cursor
  | last, [] => pattern.matchHere last []
  | last, c :: rest => (pattern.matchHere last (c :: rest)).or (find pattern (some c) rest)

/-- `replaceAll`, with the number of characters still covered by the last match. -/
def replaceFrom (pattern : Pattern) (replacement : List Char) :
    Nat → Option Char → List Char → List Char
  | _, _, [] => []
  | covered + 1, _, c :: rest => replaceFrom pattern replacement covered (some c) rest
  | 0, last, c :: rest =>
    match pattern.matchHere last (c :: rest) with
    | some behind =>
      replacement ++
        replaceFrom pattern replacement (rest.length - behind.rest.length) (some c) rest
    | none => c :: replaceFrom pattern replacement 0 (some c) rest

/-- The text with every match of the pattern replaced, from the left.  This is for patterns that
match no empty text. -/
def replaceAll (pattern : Pattern) (replacement s : List Char) : List Char :=
  pattern.replaceFrom replacement 0 none s

/-- The pattern of a text up to letter case. -/
def literal : List Char → Pattern
  | [] => .empty
  | p :: pattern => .seq (.char fun c ↦ foldCase c == p) (literal pattern)

theorem first_seq (pattern more : Pattern) (next : Cursor → Option α) (here : Cursor) :
    (seq pattern more).first next here = pattern.first (more.first next) here := rfl

theorem first_char_cons (p : Char → Bool) (next : Cursor → Option α) (last : Option Char) (c : Char)
    (rest : List Char) (group : Option (List Char)) :
    (char p).first next ⟨last, c :: rest, group⟩ =
      if p c then next ⟨some c, rest, group⟩ else none := rfl

/-! ## What they find -/

open ConfigDocs.DocComment (afterFolded afterFirst)

theorem getLast?_cons_or (c : Char) (s : List Char) (last : Option Char) :
    (c :: s).getLast?.or last = s.getLast?.or (some c) := by
  cases h : s.getLast? <;> simp [List.getLast?_cons, h]

/-- A text up to letter case is found by comparing it character by character. -/
theorem first_literal (pattern : List Char) (next : Cursor → Option α) (last : Option Char)
    (s : List Char) (group : Option (List Char)) :
    (literal pattern).first next ⟨last, s, group⟩ =
      (afterFolded pattern s).bind fun rest ↦
        next ⟨(s.take pattern.length).getLast?.or last, rest, group⟩ := by
  induction pattern generalizing last s with
  | nil => rfl
  | cons p pattern ih =>
    cases s with
    | nil => rfl
    | cons c rest =>
      rw [literal, first_seq, first_char_cons, afterFolded]
      by_cases hc : foldCase c = p
      · rw [if_pos (beq_iff_eq.2 hc), if_pos hc, ih, List.length_cons, List.take_succ_cons]
        simp only [getLast?_cons_or]
      · rw [if_neg (mt beq_iff_eq.1 hc), if_neg hc]
        rfl

/-- A greedy run up to a mark that is not in it ends at the first mark, if there is one. -/
theorem first_run_until (x : Char) (more : Pattern) (next : Cursor → Option α)
    (last : Option Char) (s : List Char) (group : Option (List Char)) :
    (seq (run true (· != x)) (seq (char (· == x)) more)).first next ⟨last, s, group⟩ =
      (afterFirst x s).bind fun rest ↦ more.first next ⟨some x, rest, group⟩ := by
  rw [first_seq, first]
  induction s generalizing last with
  | nil => rfl
  | cons c rest ih =>
    rw [firstRun, first_seq, first_char_cons, afterFirst]
    by_cases hc : c = x
    · simp [hc]
    · -- the mark is not here, so stopping here is no choice
      simp [hc, ih]

/-- A lazy run up to a mark ends at the first mark, if there is one. -/
theorem first_fewest_until (x : Char) (last : Option Char) (s : List Char)
    (group : Option (List Char)) :
    (seq (run false fun _ ↦ true) (char (· == x))).first some ⟨last, s, group⟩ =
      (afterFirst x s).map fun rest ↦ ⟨some x, rest, group⟩ := by
  rw [first_seq, first]
  induction s generalizing last with
  | nil => rfl
  | cons c rest ih =>
    rw [firstRun, first_char_cons, afterFirst]
    by_cases hc : c = x
    · simp [hc]
    · simp [hc, ih]

/-- What a match covers is passed over. -/
theorem replaceFrom_append (pattern : Pattern) (replacement covered s : List Char)
    (last : Option Char) :
    pattern.replaceFrom replacement covered.length last (covered ++ s) =
      pattern.replaceFrom replacement 0 (covered.getLast?.or last) s := by
  induction covered generalizing last with
  | nil => rfl
  | cons c covered ih => rw [List.length_cons, List.cons_append, replaceFrom, ih, getLast?_cons_or]

end Pattern

end ConfigDocs.Text
