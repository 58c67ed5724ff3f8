import Mathlib.Data.List.Infix
import ConfigDocs.DocComment

/-!
# Entities, decoded one kind after the other

Decoding goes through the text five times, once for each predefined entity, and every time but the
first it reads what the times before have written.  Nothing is decoded twice for all that.  Decoding
some kinds of entities in one pass from the left (`DocComment.decodeKinds`) and then another kind in
a second pass comes to decoding them all in one pass (`DocComment.replaceAll_decodeKinds`), if the
new kind is written with none of the characters the others stand for.  That is why the ampersand has
to come last, for every entity is written with one.

So `DocComment.decodeEntities` is one pass over the text that never reads what it has written
(`DocComment.decodeEntities_eq_decodeKinds`), the one that `DocComment.readOnce` spells out, and it
undoes escaping.  Escaping leaves some freedom: an ampersand has to be written as an entity, and the
other four characters may be (`DocComment.EscapedAs`).  All of it undoes in the same way
(`DocComment.decodeEntities_readsOnce`).
-/

set_option autoImplicit false

namespace ConfigDocs

namespace Text

theorem replaceFrom_append (pattern replacement covered s : List Char) :
    replaceFrom pattern replacement covered.length (covered ++ s) =
      replaceFrom pattern replacement 0 s := by
  induction covered with
  | nil => rfl
  | cons c covered ih => rw [List.length_cons, List.cons_append, replaceFrom, ih]

/-- Where the pattern begins, it is replaced, and what follows it is read on. -/
theorem replaceAll_append {pattern : List Char} (h : pattern ≠ []) (replacement s : List Char) :
    replaceAll pattern replacement (pattern ++ s) =
      replacement ++ replaceAll pattern replacement s := by
  cases pattern with
  | nil => exact absurd rfl h
  | cons p more =>
    have hprefix : (p :: more).isPrefixOf (p :: (more ++ s)) = true :=
      List.isPrefixOf_iff_prefix.2 (List.prefix_append (p :: more) s)
    rw [replaceAll, List.cons_append, replaceFrom, if_pos hprefix, List.length_cons,
      Nat.add_sub_cancel, replaceFrom_append, replaceAll]

theorem replaceAll_cons {pattern s : List Char} {c : Char} (h : ¬pattern <+: c :: s)
    (replacement : List Char) :
    replaceAll pattern replacement (c :: s) = c :: replaceAll pattern replacement s := by
  rw [replaceAll, replaceFrom, if_neg (mt List.isPrefixOf_iff_prefix.1 h), replaceAll]

end Text

namespace DocComment

open Text (replaceAll replaceAll_append replaceAll_cons)

/-! ## Kinds of entities -/

/-- A kind of entities. -/
structure EntityKind where
  /-- How the entity is written. -/
  spelling : List Char
  /-- The character it stands for. -/
  char : Char
deriving DecidableEq, Repr

/-- The five predefined entities, the ampersand last. -/
def predefined : List EntityKind :=
  [⟨"&lt;".toList, '<'⟩, ⟨"&gt;".toList, '>'⟩, ⟨"&quot;".toList, '"'⟩, ⟨"&apos;".toList, '\''⟩,
    ⟨"&amp;".toList, '&'⟩]

/-- The kind of the entity with which the text begins, if it begins with one. -/
def kindAt (kinds : List EntityKind) (s : List Char) : Option EntityKind :=
  kinds.find? fun kind ↦ kind.spelling.isPrefixOf s

/-- `decodeKinds`, with the number of characters still covered by the last entity. -/
def decodeFrom (kinds : List EntityKind) : Nat → List Char → List Char
  | _, [] => []
  | covered + 1, _ :: rest => decodeFrom kinds covered rest
  | 0, c :: rest =>
    match kindAt kinds (c :: rest) with
    | some kind => kind.char :: decodeFrom kinds (kind.spelling.length - 1) rest
    | none => c :: decodeFrom kinds 0 rest

/-- The text with each entity of the given kinds read as the character it stands for, in one pass
from the left.  What an entity stands for is not read again. -/
def decodeKinds (kinds : List EntityKind) (s : List Char) : List Char :=
  decodeFrom kinds 0 s

/-- The text is written like an entity. -/
structure IsSpelling (s : List Char) : Prop where
  /-- An ampersand comes first. -/
  head : s.head? = some '&'
  /-- No other follows. -/
  tail : '&' ∉ s.tail

instance (s : List Char) : Decidable (IsSpelling s) :=
  decidable_of_iff (s.head? = some '&' ∧ '&' ∉ s.tail)
    ⟨fun h ↦ ⟨h.1, h.2⟩, fun h ↦ ⟨h.head, h.tail⟩⟩

theorem IsSpelling.exists_name {s : List Char} (h : IsSpelling s) :
    ∃ name, s = '&' :: name ∧ '&' ∉ name :=
  ⟨s.tail, (List.cons_head?_tail h.head).symm, h.tail⟩

/-- Behind an entity, less is left to read. -/
theorem IsSpelling.length_lt {s t u : List Char} (h : IsSpelling s) (heq : s ++ t = u) :
    t.length < u.length := by
  obtain ⟨name, rfl, -⟩ := h.exists_name
  rw [← heq, List.length_append, List.length_cons]
  omega

section OnePass

variable {kinds : List EntityKind} {kind : EntityKind} {c : Char} {s : List Char}

theorem kindAt_eq_some (h : kindAt kinds s = some kind) : kind ∈ kinds ∧ kind.spelling <+: s :=
  ⟨List.mem_of_find?_eq_some h,
    by simpa using List.find?_some h⟩

theorem kindAt_eq_none_iff : kindAt kinds s = none ↔ ∀ kind ∈ kinds, ¬kind.spelling <+: s := by
  rw [kindAt, List.find?_eq_none]
  simp only [List.isPrefixOf_iff_prefix]

theorem decodeFrom_append (covered s : List Char) :
    decodeFrom kinds covered.length (covered ++ s) = decodeFrom kinds 0 s := by
  induction covered with
  | nil => rfl
  | cons c covered ih => rw [List.length_cons, List.cons_append, decodeFrom, ih]

theorem decodeKinds_cons (h : kindAt kinds (c :: s) = none) :
    decodeKinds kinds (c :: s) = c :: decodeKinds kinds s := by
  rw [decodeKinds, decodeFrom, h, decodeKinds]

theorem decodeKinds_append (hkind : IsSpelling kind.spelling)
    (h : kindAt kinds (kind.spelling ++ s) = some kind) :
    decodeKinds kinds (kind.spelling ++ s) = kind.char :: decodeKinds kinds s := by
  obtain ⟨name, hname, -⟩ := hkind.exists_name
  rw [hname, List.cons_append] at h ⊢
  rw [decodeKinds, decodeFrom, h]
  simp only [hname, List.length_cons, Nat.add_sub_cancel, decodeFrom_append, decodeKinds]

/-- No entity begins with another character than an ampersand. -/
theorem kindAt_cons_of_ne (hkinds : ∀ kind ∈ kinds, IsSpelling kind.spelling) (hc : c ≠ '&') :
    kindAt kinds (c :: s) = none := by
  rw [kindAt_eq_none_iff]
  intro kind hkind hprefix
  obtain ⟨name, hname, -⟩ := (hkinds kind hkind).exists_name
  rw [hname, List.cons_prefix_cons] at hprefix
  exact hc hprefix.1.symm

theorem decodeKinds_append_of_notMem (hkinds : ∀ kind ∈ kinds, IsSpelling kind.spelling)
    {plain : List Char} (hplain : '&' ∉ plain) (s : List Char) :
    decodeKinds kinds (plain ++ s) = plain ++ decodeKinds kinds s := by
  induction plain with
  | nil => rfl
  | cons c plain ih =>
    rw [List.mem_cons, not_or] at hplain
    rw [List.cons_append, decodeKinds_cons (kindAt_cons_of_ne hkinds (Ne.symm hplain.1)),
      ih hplain.2, List.cons_append]

/-- An entity of no given kind is left as it is. -/
theorem decodeKinds_append_of_kindAt_eq_none (hkinds : ∀ kind ∈ kinds, IsSpelling kind.spelling)
    {spelling : List Char} (hspelling : IsSpelling spelling)
    (h : kindAt kinds (spelling ++ s) = none) :
    decodeKinds kinds (spelling ++ s) = spelling ++ decodeKinds kinds s := by
  obtain ⟨name, rfl, hname⟩ := hspelling.exists_name
  rw [List.cons_append] at h ⊢
  rw [decodeKinds_cons h, decodeKinds_append_of_notMem hkinds hname, List.cons_append]

theorem decodeKinds_nil_kinds (s : List Char) : decodeKinds [] s = s := by
  induction s with
  | nil => rfl
  | cons c s ih => rw [decodeKinds_cons rfl, ih]

/-- A text without characters that entities stand for is there after decoding only if it was there
before. -/
theorem isPrefix_of_isPrefix_decodeKinds {s' : List Char}
    (hchars : ∀ kind ∈ kinds, kind.char ∉ s') (h : s' <+: decodeKinds kinds s) : s' <+: s := by
  induction s' generalizing s with
  | nil => exact List.nil_prefix
  | cons d s' ih =>
    cases s with
    | nil => exact h
    | cons c s =>
      cases hkind : kindAt kinds (c :: s) with
      | some kind =>
        rw [decodeKinds, decodeFrom, hkind] at h
        have hd := (List.cons_prefix_cons.1 h).1
        exact absurd (hd ▸ List.mem_cons_self ..) (hchars kind (kindAt_eq_some hkind).1)
      | none =>
        rw [decodeKinds_cons hkind, List.cons_prefix_cons] at h
        rw [List.cons_prefix_cons]
        refine ⟨h.1, ih (fun kind hkind hmem ↦ ?_) h.2⟩
        exact hchars kind hkind (List.mem_cons_of_mem d hmem)

end OnePass

/-! ## One kind more -/

/-- **Decoding another kind of entities afterwards is decoding it along with the others**, if it is
written without the characters they stand for. -/
theorem replaceAll_decodeKinds {kinds : List EntityKind} {kind : EntityKind}
    (hkinds : ∀ k ∈ kinds, IsSpelling k.spelling) (hkind : IsSpelling kind.spelling)
    (hchars : ∀ k ∈ kinds, k.char ∉ kind.spelling) (s : List Char) :
    replaceAll kind.spelling [kind.char] (decodeKinds kinds s) =
      decodeKinds (kinds ++ [kind]) s := by
  obtain ⟨name, hname, -⟩ := hkind.exists_name
  induction hn : s.length using Nat.strong_induction_on generalizing s with
  | _ n ih =>
  subst hn
  cases s with
  | nil => rfl
  | cons c s =>
    have hboth : kindAt (kinds ++ [kind]) (c :: s) =
        (kindAt kinds (c :: s)).or (kindAt [kind] (c :: s)) := List.find?_append
    cases hat : kindAt kinds (c :: s) with
    | some k =>
      -- the earlier passes leave a character here with which no entity begins
      obtain ⟨hk, t, ht⟩ := kindAt_eq_some hat
      have hspelling := hkinds k hk
      have hfree : ¬kind.spelling <+: k.char :: decodeKinds kinds t := by
        rw [hname, List.cons_prefix_cons]
        rintro ⟨hchar, -⟩
        exact hchars k hk (hname ▸ hchar ▸ List.mem_cons_self ..)
      have hnext := ih _ (hspelling.length_lt ht) t rfl
      rw [hat, Option.some_or, ← ht] at hboth
      rw [← ht] at hat ⊢
      rw [decodeKinds_append hspelling hat, decodeKinds_append hspelling hboth,
        replaceAll_cons hfree, hnext]
    | none =>
      rw [hat, Option.none_or] at hboth
      by_cases hhere : kind.spelling <+: c :: s
      · -- the earlier passes leave the entity as it is
        obtain ⟨t, ht⟩ := hhere
        have hnew : kindAt [kind] (kind.spelling ++ t) = some kind :=
          List.find?_cons_of_pos (List.isPrefixOf_iff_prefix.2 (List.prefix_append ..))
        have hnext := ih _ (hkind.length_lt ht) t rfl
        rw [← ht, hnew] at hboth
        rw [← ht] at hat ⊢
        rw [decodeKinds_append_of_kindAt_eq_none hkinds hkind hat,
          replaceAll_append (by simp [hname]), decodeKinds_append hkind hboth, hnext,
          List.singleton_append]
      · have hnone : kindAt [kind] (c :: s) = none :=
          kindAt_eq_none_iff.2 (List.forall_mem_singleton.2 hhere)
        have hfree : ¬kind.spelling <+: c :: decodeKinds kinds s := by
          rw [← decodeKinds_cons hat]
          exact mt (isPrefix_of_isPrefix_decodeKinds hchars) hhere
        rw [hnone] at hboth
        rw [decodeKinds_cons hat, decodeKinds_cons hboth, replaceAll_cons hfree,
          ih _ (Nat.lt_succ_self _) s rfl]

/-! ## The five entities -/

/-- Passes for several kinds come to one, if no entity is written with a character that an earlier
one stands for. -/
theorem foldl_replaceAll (done kinds : List EntityKind)
    (hspelling : ∀ k ∈ done ++ kinds, IsSpelling k.spelling)
    (hchars : (done ++ kinds).Pairwise fun k later ↦ k.char ∉ later.spelling) (s : List Char) :
    kinds.foldl (fun t kind ↦ replaceAll kind.spelling [kind.char] t) (decodeKinds done s) =
      decodeKinds (done ++ kinds) s := by
  induction kinds generalizing done with
  | nil => rw [List.foldl_nil, List.append_nil]
  | cons kind kinds ih =>
    have hdone : ∀ k ∈ done, IsSpelling k.spelling := fun k hk ↦
      hspelling k (List.mem_append_left _ hk)
    have hkind : IsSpelling kind.spelling :=
      hspelling kind (List.mem_append_right _ (List.mem_cons_self ..))
    have hearlier : ∀ k ∈ done, k.char ∉ kind.spelling := fun k hk ↦
      (List.pairwise_append.1 hchars).2.2 k hk kind (List.mem_cons_self ..)
    rw [List.append_cons] at hspelling hchars ⊢
    rw [List.foldl_cons, replaceAll_decodeKinds hdone hkind hearlier, ih _ hspelling hchars]

/-- **The five passes come to one.**  Every entity is written with an ampersand, and the ampersand
is decoded last. -/
theorem decodeEntities_eq_decodeKinds (s : List Char) :
    decodeEntities s = decodeKinds predefined s := by
  have hpasses := foldl_replaceAll [] predefined (by decide) (by decide) s
  rwa [decodeKinds_nil_kinds] at hpasses

/-- A character as it is written where markup could stand. -/
def escapeChar (c : Char) : List Char :=
  if c = '&' then "&amp;".toList
  else if c = '<' then "&lt;".toList
  else if c = '>' then "&gt;".toList
  else if c = '"' then "&quot;".toList
  else if c = '\'' then "&apos;".toList
  else [c]

/-- A text as it is written where markup could stand. -/
def escape (s : List Char) : List Char :=
  s.flatMap escapeChar

theorem kindAt_append {kind : EntityKind} (h : kind ∈ predefined) (s : List Char) :
    kindAt predefined (kind.spelling ++ s) = some kind := by
  simp only [predefined, List.mem_cons, List.not_mem_nil, or_false] at h
  rcases h with rfl | rfl | rfl | rfl | rfl <;> rfl

/-- An entity is decoded, whatever follows. -/
theorem decodeEntities_append (kind : EntityKind) (h : kind ∈ predefined) (s : List Char) :
    decodeEntities (kind.spelling ++ s) = kind.char :: decodeEntities s := by
  have hspelling : ∀ kind ∈ predefined, IsSpelling kind.spelling := by decide
  rw [decodeEntities_eq_decodeKinds, decodeEntities_eq_decodeKinds,
    decodeKinds_append (hspelling kind h) (kindAt_append h s)]

/-- A character with which no entity begins is kept. -/
theorem decodeEntities_cons {c : Char} {s : List Char}
    (h : ∀ kind ∈ predefined, ¬kind.spelling <+: c :: s) :
    decodeEntities (c :: s) = c :: decodeEntities s := by
  rw [decodeEntities_eq_decodeKinds, decodeEntities_eq_decodeKinds,
    decodeKinds_cons (kindAt_eq_none_iff.2 h)]

/-- The second text is the first one with every ampersand, and any number of the other characters
that entities stand for, written as entities. -/
inductive EscapedAs : List Char → List Char → Prop
  | nil : EscapedAs [] []
  | char {c : Char} (hc : c ≠ '&') {s written : List Char} (h : EscapedAs s written) :
      EscapedAs (c :: s) (c :: written)
  | entity (kind : EntityKind) (hkind : kind ∈ predefined) {s written : List Char}
      (h : EscapedAs s written) : EscapedAs (kind.char :: s) (kind.spelling ++ written)

/-- Decoding gives back what was escaped, whichever characters were. -/
theorem EscapedAs.decodeEntities_eq {s written : List Char} (h : EscapedAs s written) :
    decodeEntities written = s := by
  induction h with
  | nil => rfl
  | @char c hc s written _ ih =>
    have hnone : kindAt predefined (c :: written) = none := kindAt_cons_of_ne (by decide) hc
    rw [decodeEntities_cons (kindAt_eq_none_iff.1 hnone), ih]
  | entity kind hkind _ ih => rw [decodeEntities_append kind hkind, ih]

theorem escapedAs_escape (s : List Char) : EscapedAs s (escape s) := by
  induction s with
  | nil => exact .nil
  | cons c s ih =>
    rw [escape, List.flatMap_cons, ← escape, escapeChar]
    split_ifs with hamp hlt hgt hquot hapos
    · subst hamp
      exact .entity ⟨"&amp;".toList, '&'⟩ (by decide) ih
    · subst hlt
      exact .entity ⟨"&lt;".toList, '<'⟩ (by decide) ih
    · subst hgt
      exact .entity ⟨"&gt;".toList, '>'⟩ (by decide) ih
    · subst hquot
      exact .entity ⟨"&quot;".toList, '"'⟩ (by decide) ih
    · subst hapos
      exact .entity ⟨"&apos;".toList, '\''⟩ (by decide) ih
    · exact .char hamp ih

/-- Decoding gives back what was escaped. -/
theorem decodeEntities_escape (s : List Char) : decodeEntities (escape s) = s :=
  (escapedAs_escape s).decodeEntities_eq

/-! ## Reading a text once -/

/-- The text read once from the left: where an entity stands, the character that it stands for is
written and the reading goes on behind the entity, and any other character is copied. -/
def readOnce : List Char → List Char
  | '&' :: 'l' :: 't' :: ';' :: rest => '<' :: readOnce rest
  | '&' :: 'g' :: 't' :: ';' :: rest => '>' :: readOnce rest
  | '&' :: 'q' :: 'u' :: 'o' :: 't' :: ';' :: rest => '"' :: readOnce rest
  | '&' :: 'a' :: 'p' :: 'o' :: 's' :: ';' :: rest => '\'' :: readOnce rest
  | '&' :: 'a' :: 'm' :: 'p' :: ';' :: rest => '&' :: readOnce rest
  | c :: rest => c :: readOnce rest
  | [] => []

theorem decodeEntities_eq_readOnce (s : List Char) : decodeEntities s = readOnce s := by
  fun_induction readOnce s with
  | case1 rest ih =>
    exact (decodeEntities_append ⟨"&lt;".toList, '<'⟩ (by decide) rest).trans
      (congrArg _ ih)
  | case2 rest ih =>
    exact (decodeEntities_append ⟨"&gt;".toList, '>'⟩ (by decide) rest).trans
      (congrArg _ ih)
  | case3 rest ih =>
    exact (decodeEntities_append ⟨"&quot;".toList, '"'⟩ (by decide) rest).trans
      (congrArg _ ih)
  | case4 rest ih =>
    exact (decodeEntities_append ⟨"&apos;".toList, '\''⟩ (by decide) rest).trans
      (congrArg _ ih)
  | case5 rest ih =>
    exact (decodeEntities_append ⟨"&amp;".toList, '&'⟩ (by decide) rest).trans
      (congrArg _ ih)
  | case6 c rest hlt hgt hquot hapos hamp ih =>
    rw [decodeEntities_cons, ih]
    intro kind hkind hprefix
    simp only [predefined, List.mem_cons, List.not_mem_nil, or_false] at hkind
    rcases hkind with rfl | rfl | rfl | rfl | rfl <;> obtain ⟨more, ⟨⟩⟩ := hprefix
    · exact hlt more rfl rfl
    · exact hgt more rfl rfl
    · exact hquot more rfl rfl
    · exact hapos more rfl rfl
    · exact hamp more rfl rfl
  | case7 => rfl

/-- **Entities are decoded once.**  Going through a text once for each kind of entities comes to
reading it once.  So decoding undoes escaping, whether or not other characters than the ampersand
have been escaped, and an ampersand that was escaped does not begin an entity. -/
theorem decodeEntities_readsOnce (s : List Char) :
    decodeEntities s = readOnce s ∧
      (∀ written, EscapedAs s written → decodeEntities written = s) ∧
      decodeEntities (escape s) = s ∧
      decodeEntities "&amp;lt;".toList = "&lt;".toList :=
  ⟨decodeEntities_eq_readOnce s, fun _ h ↦ h.decodeEntities_eq, decodeEntities_escape s,
    decodeEntities_escape "&lt;".toList⟩

/-- A text that looks like an entity, of which only the ampersand is escaped. -/
theorem decodeEntities_readsOnce_sparing :
    EscapedAs "&lt; >".toList "&amp;lt; >".toList ∧
      decodeEntities "&amp;lt; >".toList = "&lt; >".toList := by
  have hescaped : EscapedAs "&lt; >".toList "&amp;lt; >".toList :=
    .entity ⟨"&amp;".toList, '&'⟩ (by decide) (.char (by decide) (.char (by decide)
      (.char (by decide) (.char (by decide) (.char (by decide) .nil)))))
  exact ⟨hescaped, (decodeEntities_readsOnce "&lt; >".toList).2.1 _ hescaped⟩

end DocComment

end ConfigDocs
