/-!
# Classes of characters as tables of intervals

Which characters are letters, digits or marks is not a matter of rule but of a published table.
Such a table is kept here as the list of its closed intervals of code points, and asking whether a
character belongs to it is one walk along that list.

The walk stops at the first interval that begins beyond the character, since no later one can hold
it.  This takes a table in which every interval lies behind the one before, and that it does is part
of the type (`CharClass.ordered`): it is checked once, where a table is written down.  So a
character belongs to a class exactly if one of the intervals holds it (`CharClass.contains_iff`),
and all that is proved of the tables goes through that.
-/

set_option autoImplicit false

namespace ConfigDocs

/-- Whether each interval of a list begins no earlier than `n`, ends no earlier than it begins, and
lies behind the one before it. -/
def inOrderFrom (n : Nat) : List (Nat × Nat) → Bool
  | [] => true
  | (lo, hi) :: rest => n ≤ lo && lo ≤ hi && inOrderFrom (hi + 1) rest

/-- A class of characters, as the ascending list of its closed intervals of code points. -/
structure CharClass where
  /-- First and last code point of each interval. -/
  intervals : List (Nat × Nat)
  /-- The intervals lie one behind the other. -/
  ordered : inOrderFrom 0 intervals = true := by decide +kernel

namespace CharClass

/-- Whether a code point lies in one of the intervals; the walk ends at the first interval that
begins beyond it. -/
def within (n : Nat) : List (Nat × Nat) → Bool
  | [] => false
  | (lo, hi) :: rest => if n < lo then false else n ≤ hi || within n rest

/-- Whether a character belongs to the class. -/
def contains (k : CharClass) (c : Char) : Bool :=
  within c.toNat k.intervals

theorem le_of_inOrderFrom {n : Nat} {intervals : List (Nat × Nat)}
    (h : inOrderFrom n intervals = true) : ∀ a ∈ intervals, n ≤ a.1 := by
  induction intervals generalizing n with
  | nil => simp
  | cons b rest ih =>
    obtain ⟨lo, hi⟩ := b
    simp only [inOrderFrom, Bool.and_eq_true, decide_eq_true_eq] at h
    obtain ⟨⟨hn, hlo⟩, hrest⟩ := h
    rintro a (_ | ⟨_, ha⟩)
    · exact hn
    · have := ih hrest a ha
      omega

/-- Along intervals in order, the walk that stops early finds what there is to find. -/
theorem within_iff {n m : Nat} {intervals : List (Nat × Nat)}
    (h : inOrderFrom m intervals = true) :
    within n intervals = true ↔ ∃ a ∈ intervals, a.1 ≤ n ∧ n ≤ a.2 := by
  induction intervals generalizing m with
  | nil => simp [within]
  | cons b rest ih =>
    obtain ⟨lo, hi⟩ := b
    simp only [inOrderFrom, Bool.and_eq_true, decide_eq_true_eq] at h
    obtain ⟨⟨-, hlo⟩, hrest⟩ := h
    rw [within]
    by_cases hn : n < lo
    · -- here the walk ends, and all that is left begins later still
      rw [if_pos hn]
      refine iff_of_false (by simp) ?_
      rintro ⟨a, _ | ⟨_, ha⟩, ha1, ha2⟩
      · omega
      · have := le_of_inOrderFrom hrest a ha
        omega
    · rw [if_neg hn, Bool.or_eq_true, decide_eq_true_eq, ih hrest]
      simp only [List.mem_cons, exists_eq_or_imp, Nat.le_of_not_lt hn, true_and]

/-- **A class holds the characters of its intervals**, each of them and no other. -/
theorem contains_iff (k : CharClass) (c : Char) :
    k.contains c = true ↔ ∃ a ∈ k.intervals, a.1 ≤ c.toNat ∧ c.toNat ≤ a.2 :=
  within_iff k.ordered

/-! ## Classes that do not meet -/

/-- Whether no interval of one class meets an interval of the other. -/
def isDisjoint (k l : CharClass) : Bool :=
  k.intervals.all fun a ↦ l.intervals.all fun b ↦ a.2 < b.1 || b.2 < a.1

theorem contains_eq_false_of_isDisjoint {k l : CharClass} (h : k.isDisjoint l = true) {c : Char}
    (hc : k.contains c = true) : l.contains c = false := by
  rw [Bool.eq_false_iff]
  intro hc'
  obtain ⟨a, ha, hlo, hhi⟩ := (k.contains_iff c).1 hc
  obtain ⟨b, hb, hlo', hhi'⟩ := (l.contains_iff c).1 hc'
  have hab := List.all_eq_true.1 (List.all_eq_true.1 h a ha) b hb
  rw [Bool.or_eq_true, decide_eq_true_eq, decide_eq_true_eq] at hab
  omega

end CharClass

end ConfigDocs
