import Mathlib.Data.List.Chain
import ConfigDocs.Text.Basic

/-!
# The words of a text

Blanks do nothing but separate words, so what is left of a text when its blanks are normalised is
its words with one space between them (`Text.normalizeBlanks_eq_spaced`).  The words can be read off
the text without regard to what stands between them, so this says what normalising comes to, and
not how it is done.

From the words one sees what a normalised text looks like (`Text.OneSpaced`): neither end is blank,
the only blanks are spaces, and no two of them are neighbours.
-/

set_option autoImplicit false

namespace ConfigDocs.Text

/-! ## Words with spaces between them -/

/-- The stretches of a text between its blanks, without the empty ones. -/
def words (s : List Char) : List (List Char) :=
  (s.splitOnP isBlank).filter (· ≠ [])

/-- The words with one space between them. -/
def spaced (words : List (List Char)) : List Char :=
  [' '].intercalate words

theorem spaced_singleton (w : List Char) : spaced [w] = w :=
  List.intercalate_singleton

theorem spaced_cons_cons (w w' : List Char) (ws : List (List Char)) :
    spaced (w :: w' :: ws) = w ++ ' ' :: spaced (w' :: ws) := by
  rw [spaced, List.intercalate_cons_cons, List.append_assoc, List.singleton_append, spaced]

/-- A character goes before the words with the first of them. -/
theorem spaced_cons_head (c : Char) (w : List Char) (ws : List (List Char)) :
    spaced ((c :: w) :: ws) = c :: spaced (w :: ws) := by
  cases ws with
  | nil => rw [spaced_singleton, spaced_singleton]
  | cons w' ws => rw [spaced_cons_cons, spaced_cons_cons, List.cons_append]

theorem spaced_eq_nil_iff {ws : List (List Char)} (h : ∀ w ∈ ws, w ≠ []) :
    spaced ws = [] ↔ ws = [] := by
  cases ws with
  | nil => exact iff_of_true rfl rfl
  | cons w ws =>
    refine iff_of_false ?_ (List.cons_ne_nil w ws)
    cases w with
    | nil => exact absurd rfl (h [] (List.mem_cons_self ..))
    | cons c w =>
      rw [spaced_cons_head]
      exact List.cons_ne_nil c _

/-- A space before words, if there are any, is like an empty word. -/
theorem spaced_nil_cons {ws : List (List Char)} (h : ∀ w ∈ ws, w ≠ []) :
    spaced ([] :: ws) = if spaced ws = [] then [] else ' ' :: spaced ws := by
  rw [if_congr (spaced_eq_nil_iff h) rfl rfl]
  cases ws with
  | nil => rfl
  | cons w ws => rw [spaced_cons_cons, List.nil_append, if_neg (List.cons_ne_nil w ws)]

/-! ## Normalised texts -/

theorem ne_nil_of_mem_words {s w : List Char} (h : w ∈ words s) : w ≠ [] := by
  simpa using (List.mem_filter.1 h).2

theorem words_cons_of_isBlank {c : Char} (hc : isBlank c = true) (s : List Char) :
    words (c :: s) = words s := by
  rw [words, List.splitOnP_cons_eq_if_modifyHead, if_pos hc, List.filter_cons_of_neg (by simp),
    words]

/-- Squeezed from within a word or from before one, the words of a text come out with one space
between them. -/
theorem trimEnd_squeeze (s : List Char) :
    trimEnd isBlank (squeeze true s) = spaced (words s) ∧
      ∀ w pieces, s.splitOnP isBlank = w :: pieces →
        trimEnd isBlank (squeeze false s) = spaced (w :: pieces.filter (· ≠ [])) := by
  induction s with
  | nil =>
    refine ⟨rfl, fun w pieces h ↦ ?_⟩
    obtain ⟨rfl, rfl⟩ := List.cons.inj h
    rfl
  | cons c s ih =>
    obtain ⟨hbefore, hwithin⟩ := ih
    cases hc : isBlank c with
    | true =>
      rw [words_cons_of_isBlank hc, squeeze, if_pos hc, if_pos rfl]
      refine ⟨hbefore, fun w pieces h ↦ ?_⟩
      rw [List.splitOnP_cons_eq_if_modifyHead, if_pos hc] at h
      obtain ⟨rfl, rfl⟩ := List.cons.inj h
      rw [squeeze, if_pos hc, if_neg Bool.false_ne_true, trimEnd_cons, hbefore]
      simp only [isBlank_space, and_true]
      exact (spaced_nil_cons fun w hw ↦ ne_nil_of_mem_words hw).symm
    | false =>
      obtain ⟨w, pieces, hpieces⟩ := List.exists_cons_of_ne_nil (List.splitOnP_ne_nil isBlank s)
      have hsplit : (c :: s).splitOnP isBlank = (c :: w) :: pieces := by
        rw [List.splitOnP_cons_eq_if_modifyHead, if_neg (by simp [hc]), hpieces,
          List.modifyHead_cons]
      have hsqueeze (afterBlank : Bool) :
          trimEnd isBlank (squeeze afterBlank (c :: s)) =
            spaced ((c :: w) :: pieces.filter (· ≠ [])) := by
        rw [squeeze, if_neg (by simp [hc]), trimEnd_cons, hwithin w pieces hpieces,
          if_neg (by simp [hc]), spaced_cons_head]
      refine ⟨?_, fun w' pieces' h ↦ ?_⟩
      · rw [hsqueeze, words, hsplit, List.filter_cons_of_pos (by simp)]
      · rw [hsplit] at h
        obtain ⟨rfl, rfl⟩ := List.cons.inj h
        exact hsqueeze false

/-- Squeezed from behind a blank, a text does not begin with one. -/
theorem dropWhile_squeeze_true (s : List Char) :
    (squeeze true s).dropWhile isBlank = squeeze true s := by
  induction s with
  | nil => rfl
  | cons c s ih =>
    rw [squeeze]
    cases hc : isBlank c with
    | true => rwa [if_pos rfl, if_pos rfl]
    | false => rw [if_neg Bool.false_ne_true, List.dropWhile_cons_of_neg (by simp [hc])]

theorem dropWhile_squeeze (s : List Char) :
    (squeeze false s).dropWhile isBlank = squeeze true s := by
  cases s with
  | nil => rfl
  | cons c s =>
    rw [squeeze, squeeze]
    cases hc : isBlank c with
    | true =>
      rw [if_pos rfl, if_neg Bool.false_ne_true, if_pos rfl, if_pos rfl,
        List.dropWhile_cons_of_pos isBlank_space, dropWhile_squeeze_true]
    | false =>
      rw [if_neg Bool.false_ne_true, if_neg Bool.false_ne_true,
        List.dropWhile_cons_of_neg (by simp [hc])]

/-- **A normalised text is its words with one space between them.** -/
theorem normalizeBlanks_eq_spaced (s : List Char) : normalizeBlanks s = spaced (words s) := by
  rw [normalizeBlanks, trim, dropWhile_squeeze, (trimEnd_squeeze s).1]

/-! ## What they look like -/

/-- What holds of a normalised text. -/
structure OneSpaced (s : List Char) : Prop where
  /-- It does not begin with a blank. -/
  head : ∀ c, s.head? = some c → isBlank c = false
  /-- It does not end with one. -/
  last : ∀ c, s.getLast? = some c → isBlank c = false
  /-- There are no blanks in it but spaces. -/
  blank : ∀ c ∈ s, isBlank c = true → c = ' '
  /-- There are no two spaces side by side. -/
  single : ¬[' ', ' '] <:+: s

theorem oneSpaced_nil : OneSpaced [] :=
  ⟨nofun, nofun, nofun, by decide⟩

/-- Nothing blank is in a piece between blanks. -/
theorem isBlank_of_mem_splitOnP {s w : List Char} (h : w ∈ s.splitOnP isBlank) {c : Char}
    (hc : c ∈ w) : isBlank c = false := by
  induction s generalizing w with
  | nil =>
    obtain rfl : w = [] := by simpa using h
    cases hc
  | cons d s ih =>
    rw [List.splitOnP_cons_eq_if_modifyHead] at h
    split at h
    · rcases List.mem_cons.1 h with rfl | h
      · cases hc
      · exact ih h hc
    · rename_i hd
      obtain ⟨first, pieces, hpieces⟩ := List.exists_cons_of_ne_nil (List.splitOnP_ne_nil isBlank s)
      rw [hpieces, List.modifyHead_cons] at h
      rw [hpieces] at ih
      rcases List.mem_cons.1 h with rfl | h
      · rcases List.mem_cons.1 hc with rfl | hc
        · exact Bool.eq_false_iff.2 hd
        · exact ih (List.mem_cons_self ..) hc
      · exact ih (List.mem_cons_of_mem first h) hc

/-- A word: it is not empty, and nothing in it is blank. -/
structure IsWord (w : List Char) : Prop where
  /-- It is not empty. -/
  ne_nil : w ≠ []
  /-- There is no blank in it. -/
  chars : ∀ c ∈ w, isBlank c = false

theorem isWord_of_mem_words {s w : List Char} (h : w ∈ words s) : IsWord w :=
  ⟨ne_nil_of_mem_words h, fun _ hc ↦ isBlank_of_mem_splitOnP (List.mem_filter.1 h).1 hc⟩

theorem isChain_iff_single {s : List Char} :
    s.IsChain (fun c d ↦ ¬(c = ' ' ∧ d = ' ')) ↔ ¬[' ', ' '] <:+: s := by
  constructor
  · intro hchain htwo
    have hpair := hchain.infix htwo
    simp at hpair
  · intro hsingle
    refine (List.isChain_isInfix s).imp fun c d htwo ↦ ?_
    rintro ⟨rfl, rfl⟩
    exact hsingle htwo

theorem IsWord.oneSpaced {w : List Char} (h : IsWord w) : OneSpaced w where
  head c hc := h.chars c (List.mem_of_head? hc)
  last c hc := h.chars c (List.mem_of_getLast? hc)
  blank c hc hblank := by
    rw [h.chars c hc] at hblank
    cases hblank
  single htwo := by
    have hspace := h.chars ' ' (htwo.subset (List.mem_cons_self ..))
    cases hspace

/-- A word goes before a normalised text with a space between them. -/
theorem OneSpaced.cons {w s : List Char} (hw : IsWord w) (h : OneSpaced s) (hs : s ≠ []) :
    OneSpaced (w ++ ' ' :: s) where
  head c hc := by
    rw [List.head?_append_of_ne_nil _ hw.ne_nil] at hc
    exact hw.oneSpaced.head c hc
  last c hc := by
    rw [List.append_cons, List.getLast?_append_of_ne_nil _ hs] at hc
    exact h.last c hc
  blank c hc hblank := by
    rcases List.mem_append.1 hc with hc | hc
    · exact hw.oneSpaced.blank c hc hblank
    · rcases List.mem_cons.1 hc with rfl | hc
      · rfl
      · exact h.blank c hc hblank
  single := by
    rw [← isChain_iff_single, List.isChain_append, List.isChain_cons]
    refine ⟨isChain_iff_single.2 hw.oneSpaced.single, ⟨?_, isChain_iff_single.2 h.single⟩, ?_⟩
    · rintro c hc ⟨-, rfl⟩
      have hspace := h.head ' ' hc
      cases hspace
    · rintro c hc d - ⟨rfl, -⟩
      have hspace := hw.oneSpaced.last ' ' hc
      cases hspace

theorem oneSpaced_spaced {ws : List (List Char)} (h : ∀ w ∈ ws, IsWord w) :
    OneSpaced (spaced ws) := by
  induction ws with
  | nil => exact oneSpaced_nil
  | cons w ws ih =>
    rw [List.forall_mem_cons] at h
    cases ws with
    | nil =>
      rw [spaced_singleton]
      exact h.1.oneSpaced
    | cons w' ws =>
      rw [spaced_cons_cons]
      refine .cons h.1 (ih h.2) ?_
      rw [Ne, spaced_eq_nil_iff fun w hw ↦ (h.2 w hw).ne_nil]
      exact List.cons_ne_nil w' ws

theorem oneSpaced_normalizeBlanks (s : List Char) : OneSpaced (normalizeBlanks s) := by
  rw [normalizeBlanks_eq_spaced]
  exact oneSpaced_spaced fun _ hw ↦ isWord_of_mem_words hw

end ConfigDocs.Text
