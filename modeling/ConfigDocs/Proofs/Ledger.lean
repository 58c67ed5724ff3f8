import Mathlib.Data.Finset.Card
import Mathlib.Data.List.Nodup
import Mathlib.Data.List.Perm.Subperm
import Mathlib.Order.Bounds.Defs
import ConfigDocs.Ledger

/-!
# Names that are given out once

A claim looks through the candidates for a name, and it stops looking after as many of them as
there are names in the ledger.  That is enough because the candidates are pairwise different, also
up to letter case (`Ledger.lower_candidate_injective`): a ledger of `n` names cannot hold `n + 1` of
them.  So the name a claim is answered with is always free (`Ledger.contains_freeName`), whatever
the ledger held before.

Nothing but this bound is owed to the candidates being finitely many.  A search that only goes on
while names are taken (`Ledger.Search`) ends as well, and with the same name, which is the plain one
or the one with the least number that is free (`Ledger.Grants`).  Over a sequence of claims, each
answered from the ledger the last one left, no name is given out twice
(`Ledger.claimEach_answered`).
-/

set_option autoImplicit false

namespace ConfigDocs

/-! ## Lower case -/

namespace Text

@[simp] theorem toList_toLowerAscii (s : String) :
    (toLowerAscii s).toList = s.toList.map Char.toLower := by
  rw [toLowerAscii, String.toList_ofList]

theorem toLower_of_isDigit {c : Char} (h : c.isDigit = true) : c.toLower = c := by
  rw [Char.isDigit, Bool.and_eq_true, decide_eq_true_eq, decide_eq_true_eq] at h
  refine dif_neg fun hupper ↦ ?_
  -- the digits end at 57 and the capitals begin at 65
  have hdigit : c.val.toNat ≤ 57 := UInt32.le_iff_toNat_le.1 h.2
  have hcapital : 65 ≤ c.val.toNat := UInt32.le_iff_toNat_le.1 hupper.1
  omega

/-- A numeral has no letters in it. -/
theorem map_toLower_repr (n : Nat) : n.repr.toList.map Char.toLower = n.repr.toList := by
  rw [Nat.toList_repr]
  conv_rhs => rw [← List.map_id (Nat.toDigits 10 n)]
  refine List.map_congr_left fun c hc ↦ ?_
  exact toLower_of_isDigit (Nat.isDigit_of_mem_toDigits (by decide) (by decide) hc)

theorem repr_injective {m n : Nat} (h : m.repr.toList = n.repr.toList) : m = n := by
  rw [Nat.toList_repr, Nat.toList_repr] at h
  rw [← Nat.ofDigitChars_ten_toDigits (n := m), h, Nat.ofDigitChars_ten_toDigits]

end Text

namespace Ledger

/-! ## Candidates -/

/-- The candidates in lower case, character by character. -/
theorem lower_candidate_succ (base ext : String) (k : Nat) :
    (Text.toLowerAscii (candidate base ext (k + 1))).toList =
      base.toList.map Char.toLower ++ ('-' :: (k + 2).repr.toList) ++
        ext.toList.map Char.toLower := by
  have hyphen : "-".toList.map Char.toLower = ['-'] := by decide
  simp only [Text.toList_toLowerAscii, candidate, String.toList_append, List.map_append,
    Nat.toString_eq_repr, Text.map_toLower_repr, hyphen, List.append_assoc, List.cons_append,
    List.nil_append]

theorem lower_candidate_zero (base ext : String) :
    (Text.toLowerAscii (candidate base ext 0)).toList =
      base.toList.map Char.toLower ++ ext.toList.map Char.toLower := by
  rw [Text.toList_toLowerAscii, candidate, String.toList_append, List.map_append]

/-- **The candidates for a claim differ**, also up to letter case. -/
theorem lower_candidate_injective (base ext : String) :
    Function.Injective fun k ↦ Text.toLowerAscii (candidate base ext k) := by
  intro i j h
  have hlist := congrArg String.toList h
  cases i with
  | zero =>
    cases j with
    | zero => rfl
    | succ j =>
      have hlen := congrArg List.length hlist
      simp only [lower_candidate_zero, lower_candidate_succ, List.length_append,
        List.length_cons] at hlen
      omega
  | succ i =>
    cases j with
    | zero =>
      have hlen := congrArg List.length hlist
      simp only [lower_candidate_zero, lower_candidate_succ, List.length_append,
        List.length_cons] at hlen
      omega
    | succ j =>
      simp only [lower_candidate_succ, List.append_cancel_right_eq, List.append_cancel_left_eq,
        List.cons.injEq, true_and] at hlist
      have := Text.repr_injective hlist
      omega

/-- A character that is neither a numeral nor the hyphen gets into a candidate only from the base or
the extension. -/
theorem notMem_candidate {c : Char} (hdigit : c.isDigit = false) (hhyphen : c ≠ '-')
    {base ext : String} (hbase : c ∉ base.toList) (hext : c ∉ ext.toList) (k : Nat) :
    c ∉ (candidate base ext k).toList := by
  cases k with
  | zero => simp [candidate, hbase, hext]
  | succ k =>
    have hnumeral : c ∉ Nat.toDigits 10 (k + 2) := by
      intro hmem
      rw [Nat.isDigit_of_mem_toDigits (by decide) (by decide) hmem] at hdigit
      cases hdigit
    simp [candidate, hbase, hext, hhyphen, hnumeral]

/-! ## Claims -/

theorem contains_iff {ledger : Ledger} {name : String} :
    ledger.contains name = true ↔ Text.toLowerAscii name ∈ ledger.claimed := by
  rw [contains, List.contains_iff_mem]

/-- Among one more candidates than there are names in the ledger, one is free. -/
theorem exists_free_candidate (ledger : Ledger) (base ext : String) :
    ∃ k ≤ ledger.size, ledger.contains (candidate base ext k) = false := by
  by_contra hall
  push Not at hall
  -- all of the candidates, in lower case, would be among the names of the ledger
  have hsub : (List.range (ledger.size + 1)).map (fun k ↦ Text.toLowerAscii (candidate base ext k))
      ⊆ ledger.claimed := by
    intro name hname
    obtain ⟨k, hk, rfl⟩ := List.mem_map.1 hname
    have hle : k ≤ ledger.size := Nat.lt_succ_iff.1 (List.mem_range.1 hk)
    exact contains_iff.1 (Bool.of_not_eq_false (hall k hle))
  have hnodup := List.nodup_range (n := ledger.size + 1) |>.map (lower_candidate_injective base ext)
  have hlen := (hnodup.subperm hsub).length_le
  rw [List.length_map, List.length_range] at hlen
  exact absurd hlen (Nat.not_succ_le_self _)

/-- **The name a claim is answered with is free.** -/
theorem contains_freeName (ledger : Ledger) (base ext : String) :
    ledger.contains (ledger.freeName base ext) = false := by
  rw [freeName, firstFree]
  cases hfind : (List.range ledger.size).find? fun k ↦ !ledger.contains (candidate base ext k) with
  | some k => simpa using List.find?_some hfind
  | none =>
    obtain ⟨k, hk, hfree⟩ := ledger.exists_free_candidate base ext
    have htaken := List.find?_eq_none.1 hfind
    rcases Nat.eq_or_lt_of_le hk with rfl | hlt
    · exact hfree
    · have := htaken k (List.mem_range.2 hlt)
      rw [hfree] at this
      exact absurd rfl this

theorem contains_claim (ledger : Ledger) (base ext other : String) :
    (ledger.claim base ext).2.contains other =
      (Text.toLowerAscii other == Text.toLowerAscii (ledger.claim base ext).1 ||
        ledger.contains other) :=
  ledger.contains_insert _ _

/-- The candidates before the first free one are taken. -/
theorem contains_candidate_of_lt {ledger : Ledger} {base ext : String} {k : Nat}
    (h : k < ledger.firstFree base ext) : ledger.contains (candidate base ext k) = true := by
  rw [firstFree] at h
  cases hfind : (List.range ledger.size).find? fun k ↦ !ledger.contains (candidate base ext k) with
  | some i =>
    rw [hfind, Option.getD_some] at h
    simpa using (List.find?_range_eq_some.1 hfind).2.2 k h
  | none =>
    rw [hfind, Option.getD_none] at h
    simpa using List.find?_range_eq_none.1 hfind k h

/-! ## The search for a free name -/

/-- The name with a number behind the base. -/
def numbered (base ext : String) (n : Nat) : String :=
  base ++ "-" ++ toString n ++ ext

/-- The search that looks at `name`, and at the name with the number `next` after it, ends with
`found`.  It goes on for as long as names are taken, and nothing bounds it. -/
inductive Search (ledger : Ledger) (base ext : String) : String → Nat → String → Prop
  | free {name : String} {next : Nat} (h : ledger.contains name = false) :
      Search ledger base ext name next name
  | taken {name found : String} {next : Nat} (h : ledger.contains name = true)
      (rest : Search ledger base ext (numbered base ext next) (next + 1) found) :
      Search ledger base ext name next found

theorem Search.eq {ledger : Ledger} {base ext name found found' : String} {next : Nat}
    (h : Search ledger base ext name next found) (h' : Search ledger base ext name next found') :
    found = found' := by
  induction h with
  | free hfree =>
    cases h' with
    | free => rfl
    | taken htaken =>
      rw [hfree] at htaken
      cases htaken
  | taken htaken _ ih =>
    cases h' with
    | free hfree =>
      rw [htaken] at hfree
      cases hfree
    | taken _ rest => exact ih rest

/-- From any candidate up to the first free one, the search ends there. -/
theorem search_candidate {ledger : Ledger} {base ext : String} {k : Nat}
    (h : k ≤ ledger.firstFree base ext) :
    Search ledger base ext (candidate base ext k) (k + 2) (ledger.freeName base ext) := by
  induction hd : ledger.firstFree base ext - k generalizing k with
  | zero =>
    obtain rfl : k = ledger.firstFree base ext := by omega
    exact .free (ledger.contains_freeName base ext)
  | succ d ih =>
    have hnext := ih (k := k + 1) (by omega) (by omega)
    exact .taken (contains_candidate_of_lt (by omega)) hnext

/-! ## What a claim does -/

/-- The ledger answers the claim with this name and is `after` afterwards. -/
structure Grants (ledger : Ledger) (base ext name : String) (after : Ledger) : Prop where
  /-- The search that begins with the plain name ends, with this name and no other. -/
  ends : ∀ found, Search ledger base ext (base ++ ext) 2 found ↔ found = name
  /-- The plain name is given out if it is free. -/
  plain : ledger.contains (base ++ ext) = false → name = base ++ ext
  /-- If it is not, the name has the least number from 2 on with which it is free. -/
  least : ledger.contains (base ++ ext) = true → ∃ n, name = numbered base ext n ∧
    IsLeast {n | 2 ≤ n ∧ ledger.contains (numbered base ext n) = false} n
  /-- The name was free. -/
  free : ledger.contains name = false
  /-- It is claimed afterwards, up to letter case, and nothing else has changed. -/
  contains : ∀ other, after.contains other = true ↔
    ledger.contains other = true ∨ Text.toLowerAscii other = Text.toLowerAscii name
  /-- The ledger has grown by one name. -/
  size : after.size = ledger.size + 1
  /-- It has grown by one also when a name is counted once, however often it is listed. -/
  distinct : after.claimed.toFinset.card = ledger.claimed.toFinset.card + 1

/-- The free name has the least number, if the plain name is taken. -/
theorem freeName_eq_numbered {ledger : Ledger} {base ext : String}
    (h : ledger.contains (base ++ ext) = true) :
    ∃ n, ledger.freeName base ext = numbered base ext n ∧
      IsLeast {n | 2 ≤ n ∧ ledger.contains (numbered base ext n) = false} n := by
  have hfree := ledger.contains_freeName base ext
  rw [freeName] at hfree
  rw [freeName]
  cases hfirst : ledger.firstFree base ext with
  | zero =>
    rw [hfirst, candidate, h] at hfree
    cases hfree
  | succ k =>
    rw [hfirst] at hfree
    refine ⟨k + 2, rfl, ⟨Nat.le_add_left 2 k, hfree⟩, ?_⟩
    rintro n ⟨hn, hn'⟩
    by_contra hlt
    obtain ⟨m, rfl⟩ := Nat.exists_eq_add_of_le' hn
    -- a smaller number belongs to a candidate before the first free one
    have htaken : ledger.contains (candidate base ext (m + 1)) = true :=
      contains_candidate_of_lt (by omega)
    rw [candidate] at htaken
    rw [numbered, htaken] at hn'
    cases hn'

theorem grants_claim (ledger : Ledger) (base ext : String) :
    ledger.Grants base ext (ledger.claim base ext).1 (ledger.claim base ext).2 := by
  have hends : Search ledger base ext (base ++ ext) 2 (ledger.freeName base ext) :=
    search_candidate (Nat.zero_le _)
  refine ⟨fun found ↦ ⟨fun h ↦ h.eq hends, fun h ↦ h ▸ hends⟩, fun h ↦ hends.eq (.free h),
    freeName_eq_numbered, ledger.contains_freeName base ext, fun other ↦ ?_, rfl, ?_⟩
  · rw [contains_claim, Bool.or_eq_true, beq_iff_eq, or_comm]
  · have hnew : Text.toLowerAscii (ledger.freeName base ext) ∉ ledger.claimed.toFinset := by
      rw [List.mem_toFinset, ← contains_iff, ledger.contains_freeName base ext]
      exact Bool.false_ne_true
    rw [claim, insert, List.toFinset_cons, Finset.card_insert_of_notMem hnew]

/-! ## Claims one after the other -/

/-- Claims a name for each of the given bases and extensions, in order: the names given out and the
ledger in which they are claimed. -/
def claimEach (ledger : Ledger) : List (String × String) → List String × Ledger
  | [] => ([], ledger)
  | (base, ext) :: requests =>
    let claimed := ledger.claim base ext
    let more := claimed.2.claimEach requests
    (claimed.1 :: more.1, more.2)

/-- The claims are answered one after the other, each by the ledger that the one before has left. -/
inductive GrantsEach : Ledger → List (String × String) → List String → Ledger → Prop
  | nil {ledger : Ledger} : GrantsEach ledger [] [] ledger
  | cons {ledger between after : Ledger} {base ext name : String}
      {requests : List (String × String)} {names : List String}
      (first : ledger.Grants base ext name between)
      (rest : GrantsEach between requests names after) :
      GrantsEach ledger ((base, ext) :: requests) (name :: names) after

theorem grantsEach_claimEach (ledger : Ledger) (requests : List (String × String)) :
    GrantsEach ledger requests (ledger.claimEach requests).1 (ledger.claimEach requests).2 := by
  induction requests generalizing ledger with
  | nil => exact .nil
  | cons request requests ih => exact .cons (ledger.grants_claim _ _) (ih _)

section Sequences

variable {ledger after : Ledger} {requests : List (String × String)} {names : List String}

/-- A sequence of claims adds the names given out, and nothing else. -/
theorem GrantsEach.contains (h : GrantsEach ledger requests names after) (other : String) :
    after.contains other = true ↔ ledger.contains other = true ∨
      ∃ name ∈ names, Text.toLowerAscii name = Text.toLowerAscii other := by
  induction h with
  | nil => simp
  | cons first _ ih =>
    rw [ih, first.contains, List.exists_mem_cons_iff, or_assoc,
      eq_comm (a := Text.toLowerAscii other)]

/-- The names given out were free before. -/
theorem GrantsEach.free (h : GrantsEach ledger requests names after) {name : String}
    (hname : name ∈ names) : ledger.contains name = false := by
  induction h with
  | nil => cases hname
  | cons first _ ih =>
    rcases List.mem_cons.1 hname with rfl | hname
    · exact first.free
    · have hlater := ih hname
      rw [Bool.eq_false_iff, Ne, first.contains, not_or] at hlater
      exact Bool.eq_false_iff.2 hlater.1

/-- No name is given out twice, also up to letter case. -/
theorem GrantsEach.nodup (h : GrantsEach ledger requests names after) :
    (names.map Text.toLowerAscii).Nodup := by
  induction h with
  | nil => exact List.nodup_nil
  | @cons _ between _ _ _ name _ _ first rest ih =>
    refine List.nodup_cons.2 ⟨fun hin ↦ ?_, ih⟩
    obtain ⟨later, hlater, hsame⟩ := List.mem_map.1 hin
    -- a later name is free in a ledger that holds this one
    have htaken : between.contains later = true := (first.contains later).2 (.inr hsame)
    rw [rest.free hlater] at htaken
    cases htaken

theorem GrantsEach.size (h : GrantsEach ledger requests names after) :
    after.size = ledger.size + requests.length := by
  induction h with
  | nil => rfl
  | cons first _ ih => rw [ih, first.size, List.length_cons, Nat.add_assoc, Nat.add_comm 1]

end Sequences

/-- **A ledger gives out each name once, and the first that is free.**  Every claim of a sequence
ends and is answered as the rule says, the names given out differ up to letter case, and in the end
the ledger holds them besides what it held, and is larger by as many. -/
theorem claimEach_answered (ledger : Ledger) (requests : List (String × String)) :
    GrantsEach ledger requests (ledger.claimEach requests).1 (ledger.claimEach requests).2 ∧
      ((ledger.claimEach requests).1.map Text.toLowerAscii).Nodup ∧
      (∀ name ∈ (ledger.claimEach requests).1, ledger.contains name = false) ∧
      (∀ other, (ledger.claimEach requests).2.contains other = true ↔
        ledger.contains other = true ∨ ∃ name ∈ (ledger.claimEach requests).1,
          Text.toLowerAscii name = Text.toLowerAscii other) ∧
      (ledger.claimEach requests).2.size = ledger.size + requests.length := by
  have h := grantsEach_claimEach ledger requests
  exact ⟨h, h.nodup, fun _ hname ↦ h.free hname, h.contains, h.size⟩

end Ledger

end ConfigDocs
