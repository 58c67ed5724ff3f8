import Mathlib.Data.Nat.Choose.Basic
import ConfigDocs.Proofs.WrittenForm

/-!
# How tall a reference can be

Whatever is done with a reference goes down from it into its arguments and under its wrappers, so
the *height* of a reference is how deep a recursion over it can become
(`TypeRef.lt_height_iff`).  Reading admits 64 levels, and one would like that to be the bound on the
height.  It is not.

The levels are counted as the text is read.  A wrapper comes behind the name it is applied to and
behind the arguments of that name, and it is counted on from the name: what the arguments needed has
been given back by then.  So a name may have both, 63 wrappers and arguments of 63 levels, and so
may the names in the arguments, with a wrapper less at each level down.

* `TypeRef.height_le_of_parse`: the 64 levels bound the height of what is read as long as no name
  has both arguments and wrappers; and in any case the height is at most 1 + 2 + … + 64 = 2080.
* `TypeRef.lt_height_tallText`: `A<B>` under 63 wrappers is read, and is 65 high.
* `TypeRef.exists_height_eq`: some text is read as a reference that is 2080 high.
-/

set_option autoImplicit false

namespace ConfigDocs

namespace TypeRef

/-! ## Height -/

mutual

/-- The height of a reference: one more than that of what is under its wrapper, or one more than
that of the highest of its arguments. -/
def height : TypeRef → Nat
  | .named _ args => 1 + heightMost args
  | .array t => 1 + t.height
  | .nullable t => 1 + t.height
  | .unparsed _ => 1

/-- The height of the highest of some references. -/
def heightMost : List TypeRef → Nat
  | [] => 0
  | t :: ts => max t.height (heightMost ts)

end

/-- A reference lies in another at a depth: that many steps, each into an argument or under a
wrapper, lead from the other to it. -/
inductive IsPartAt : Nat → TypeRef → TypeRef → Prop
  | refl (t : TypeRef) : IsPartAt 0 t t
  | arg {depth : Nat} {u arg : TypeRef} {name : String} {args : List TypeRef} (harg : arg ∈ args)
      (h : IsPartAt depth u arg) : IsPartAt (depth + 1) u (.named name args)
  | element {depth : Nat} {u t : TypeRef} (h : IsPartAt depth u t) :
      IsPartAt (depth + 1) u (.array t)
  | inner {depth : Nat} {u t : TypeRef} (h : IsPartAt depth u t) :
      IsPartAt (depth + 1) u (.nullable t)

theorem height_pos (t : TypeRef) : 0 < t.height := by
  cases t <;> simp only [height] <;> omega

theorem height_le_heightMost {t : TypeRef} {ts : List TypeRef} (h : t ∈ ts) :
    t.height ≤ heightMost ts := by
  induction ts with
  | nil => cases h
  | cons first ts ih =>
    rw [heightMost]
    rcases List.mem_cons.1 h with rfl | h
    · exact Nat.le_max_left ..
    · exact Nat.le_trans (ih h) (Nat.le_max_right ..)

theorem IsPartAt.lt_height {depth : Nat} {u t : TypeRef} (h : u.IsPartAt depth t) :
    depth < t.height := by
  induction h with
  | refl t => exact t.height_pos
  | arg harg _ ih =>
    have hmost := height_le_heightMost harg
    rw [height]
    omega
  | element _ ih =>
    rw [height]
    omega
  | inner _ ih =>
    rw [height]
    omega

mutual

theorem exists_isPartAt_of_lt : ∀ {depth : Nat} (t : TypeRef), depth < t.height →
    ∃ u : TypeRef, u.IsPartAt depth t
  | 0, t, _ => ⟨t, .refl t⟩
  | depth + 1, .named name args, h => by
    rw [height] at h
    have hdepth : depth < heightMost args := by omega
    obtain ⟨arg, harg, u, hu⟩ := exists_isPartAt_of_lt_heightMost args hdepth
    exact ⟨u, .arg harg hu⟩
  | depth + 1, .array t, h => by
    rw [height] at h
    have hdepth : depth < t.height := by omega
    obtain ⟨u, hu⟩ := exists_isPartAt_of_lt t hdepth
    exact ⟨u, .element hu⟩
  | depth + 1, .nullable t, h => by
    rw [height] at h
    have hdepth : depth < t.height := by omega
    obtain ⟨u, hu⟩ := exists_isPartAt_of_lt t hdepth
    exact ⟨u, .inner hu⟩
  | depth + 1, .unparsed text, h => by
    rw [height] at h
    omega

theorem exists_isPartAt_of_lt_heightMost : ∀ {depth : Nat} (ts : List TypeRef),
    depth < heightMost ts → ∃ t ∈ ts, ∃ u : TypeRef, u.IsPartAt depth t
  | _, [], h => by cases h
  | depth, t :: ts, h => by
    rw [heightMost] at h
    have hor : depth < t.height ∨ depth < heightMost ts := by omega
    rcases hor with h | h
    · exact ⟨t, List.mem_cons_self .., exists_isPartAt_of_lt t h⟩
    · obtain ⟨t', ht', hu⟩ := exists_isPartAt_of_lt_heightMost ts h
      exact ⟨t', List.mem_cons_of_mem _ ht', hu⟩

end

/-- **The height is the number of depths at which something lies.** -/
theorem lt_height_iff {depth : Nat} {t : TypeRef} :
    depth < t.height ↔ ∃ u : TypeRef, u.IsPartAt depth t :=
  ⟨exists_isPartAt_of_lt t, fun ⟨_, hu⟩ ↦ hu.lt_height⟩

/-! ## Height and levels -/

theorem wrappers_lt_nest (t : TypeRef) : t.wrappers < t.nest := by
  have h := nestUnder_eq 0 t
  rw [← nest] at h
  omega

/-- One level more is worth as many steps as there are levels. -/
theorem choose_two_succ (n : Nat) : (n + 1).choose 2 = n + n.choose 2 := by
  rw [Nat.choose_succ_succ', Nat.choose_one_right]

mutual

/-- The wrappers come on top of what the arguments can be with the levels they are left. -/
theorem height_le : ∀ t : TypeRef, t.height ≤ t.wrappers + 1 + t.nest.choose 2
  | .named name args => by
    have hargs := heightMost_le args
    rw [height, nest_named, wrappers, Nat.add_comm 1 (nestMost args)]
    omega
  | .array t => by
    have ht := height_le t
    have hmono : t.nest.choose 2 ≤ (TypeRef.array t).nest.choose 2 :=
      Nat.choose_le_choose 2 (by rw [nest_array]; exact Nat.le_max_left ..)
    rw [height, wrappers]
    omega
  | .nullable t => by
    have ht := height_le t
    have hmono : t.nest.choose 2 ≤ (TypeRef.nullable t).nest.choose 2 :=
      Nat.choose_le_choose 2 (by rw [nest_nullable]; exact Nat.le_max_left ..)
    rw [height, wrappers]
    omega
  | .unparsed text => by
    rw [height]
    omega

theorem heightMost_le : ∀ ts : List TypeRef, heightMost ts ≤ (nestMost ts + 1).choose 2
  | [] => Nat.zero_le _
  | t :: ts => by
    have ht := height_le t
    have hwrappers := wrappers_lt_nest t
    have hfirst : (t.nest + 1).choose 2 ≤ (nestMost (t :: ts) + 1).choose 2 :=
      Nat.choose_le_choose 2 (by rw [nestMost_cons]; omega)
    have hrest : (nestMost ts + 1).choose 2 ≤ (nestMost (t :: ts) + 1).choose 2 :=
      Nat.choose_le_choose 2 (by rw [nestMost_cons]; omega)
    have hts := heightMost_le ts
    rw [choose_two_succ t.nest] at hfirst
    rw [heightMost]
    omega

end

/-- The height is bounded by the sum of the numbers up to that of the levels. -/
theorem height_le_choose (t : TypeRef) : t.height ≤ (t.nest + 1).choose 2 := by
  have hheight := t.height_le
  have hwrappers := t.wrappers_lt_nest
  rw [choose_two_succ]
  omega

/-! ## Wrappers around arguments -/

/-- Whether a reference is a name with arguments. -/
def isGeneric : TypeRef → Bool
  | .named _ (_ :: _) => true
  | _ => false

mutual

/-- Whether there is a wrapper around a name with arguments, anywhere in the reference. -/
def wrapsGeneric : TypeRef → Bool
  | .named _ args => wrapsGenericAmong args
  | .array t => t.isGeneric || t.wrapsGeneric
  | .nullable t => t.isGeneric || t.wrapsGeneric
  | .unparsed _ => false

/-- `wrapsGeneric` along a list of references. -/
def wrapsGenericAmong : List TypeRef → Bool
  | [] => false
  | t :: ts => t.wrapsGeneric || wrapsGenericAmong ts

end

/-- Without arguments inside there is nothing to a reference but its wrappers and the name. -/
theorem height_eq_wrappers : ∀ t : TypeRef, t.isGeneric = false → t.wrapsGeneric = false →
    t.height = t.wrappers + 1
  | .named _ [], _, _ => rfl
  | .named _ (_ :: _), h, _ => by cases h
  | .array t, _, h => by
    rw [wrapsGeneric, Bool.or_eq_false_iff] at h
    rw [height, wrappers, height_eq_wrappers t h.1 h.2, Nat.add_comm]
  | .nullable t, _, h => by
    rw [wrapsGeneric, Bool.or_eq_false_iff] at h
    rw [height, wrappers, height_eq_wrappers t h.1 h.2, Nat.add_comm]
  | .unparsed _, _, _ => rfl

mutual

/-- **Without wrappers around arguments the height is at most the number of levels.** -/
theorem height_le_nest : ∀ t : TypeRef, t.wrapsGeneric = false → t.height ≤ t.nest
  | .named name args, h => by
    rw [height, nest_named]
    exact Nat.add_le_add_left (heightMost_le_nestMost args h) 1
  | .array t, h => by
    rw [height_eq_wrappers (.array t) rfl h]
    exact wrappers_lt_nest _
  | .nullable t, h => by
    rw [height_eq_wrappers (.nullable t) rfl h]
    exact wrappers_lt_nest _
  | .unparsed text, _ => Nat.le_refl 1

theorem heightMost_le_nestMost : ∀ ts : List TypeRef, wrapsGenericAmong ts = false →
    heightMost ts ≤ nestMost ts
  | [], _ => Nat.le_refl 0
  | t :: ts, h => by
    rw [wrapsGenericAmong, Bool.or_eq_false_iff] at h
    have ht := height_le_nest t h.1
    have hts := heightMost_le_nestMost ts h.2
    rw [heightMost, nestMost_cons]
    omega

end

/-! ## The height of what is read -/

/-- **What is read is at most 64 high, unless it has wrappers around arguments**, and then nothing
lies in it at a depth of 64.  With such wrappers the height is still bounded, by the sum of the
numbers up to 64. -/
theorem height_le_of_parse {text : String} {t : TypeRef} (h : parse text = .ok t) :
    (t.wrapsGeneric = false →
      t.height ≤ maxNesting ∧ ∀ depth (u : TypeRef), u.IsPartAt depth t → depth < maxNesting) ∧
      t.height ≤ (maxNesting + 1).choose 2 := by
  have hnest := (parse_eq_ok_iff.1 h).2
  refine ⟨fun hwraps ↦ ?_, ?_⟩
  · have hheight : t.height ≤ maxNesting := Nat.le_trans (height_le_nest t hwraps) hnest
    exact ⟨hheight, fun depth u hu ↦ Nat.lt_of_lt_of_le hu.lt_height hheight⟩
  · exact Nat.le_trans t.height_le_choose (Nat.choose_le_choose 2 (Nat.succ_le_succ hnest))

/-- The name `A` under 63 wrappers is as high as its levels admit. -/
theorem height_le_of_parse_wrapped :
    parse (wrappedText 63) = .ok (wrapped 63) ∧ (wrapped 63).wrapsGeneric = false ∧
      (wrapped 63).height = maxNesting ∧ (wrapped 63).height ≤ maxNesting := by
  have hread : parse (wrappedText 63) = .ok (wrapped 63) :=
    parse_eq_ok_iff.2 ⟨denotes_wrapped 63, by decide⟩
  have hwraps : (wrapped 63).wrapsGeneric = false := by decide
  exact ⟨hread, hwraps, by decide, ((height_le_of_parse hread).1 hwraps).1⟩

/-! ## References that are higher -/

/-- A reference under a number of wrappers. -/
def optional : Nat → TypeRef → TypeRef
  | 0, t => t
  | k + 1, t => .nullable (optional k t)

theorem height_optional (k : Nat) (t : TypeRef) : (optional k t).height = k + t.height := by
  induction k with
  | zero => rw [optional, Nat.zero_add]
  | succ k ih =>
    rw [optional, height, ih]
    omega

theorem wrappers_optional (k : Nat) (t : TypeRef) :
    (optional k t).wrappers = k + t.wrappers := by
  induction k with
  | zero => rw [optional, Nat.zero_add]
  | succ k ih =>
    rw [optional, wrappers, ih]
    omega

theorem nest_optional (k : Nat) (t : TypeRef) :
    (optional k t).nest = max t.nest (k + t.wrappers + 1) := by
  induction k with
  | zero =>
    have h := wrappers_lt_nest t
    rw [optional]
    omega
  | succ k ih =>
    rw [optional, nest_nullable, ih, wrappers_optional]
    omega

theorem Spellable.optional {t : TypeRef} (h : t.Spellable) (k : Nat) :
    (TypeRef.optional k t).Spellable := by
  induction k with
  | zero => exact h
  | succ k ih => exact .nullable ih

theorem spellable_generic {t : TypeRef} (h : t.Spellable) : (named "A" [t]).Spellable := by
  have hname : Dotted "A".toList :=
    dotted_of_isWellFormedName (List.all_eq_true.1 (by decide)) (by decide)
  refine .named hname ?_
  rw [List.forall_mem_singleton]
  exact h

/-- The highest reference of one level more than the given number: at every level there are as many
wrappers as it admits, around an argument of the levels below. -/
def tallest : Nat → TypeRef
  | 0 => .named "A" []
  | n + 1 => optional (n + 1) (.named "A" [tallest n])

theorem spellable_tallest : ∀ n : Nat, (tallest n).Spellable
  | 0 => (typeText_wrapped 0).spellable
  | n + 1 => (spellable_generic (spellable_tallest n)).optional (n + 1)

theorem nest_tallest : ∀ n : Nat, (tallest n).nest = n + 1
  | 0 => rfl
  | n + 1 => by
    rw [tallest, nest_optional, nest_named, nestMost_cons, nestMost, nest_tallest n, wrappers]
    omega

theorem height_tallest : ∀ n : Nat, (tallest n).height = (n + 2).choose 2
  | 0 => rfl
  | n + 1 => by
    rw [tallest, height_optional, height, heightMost, heightMost, height_tallest n,
      choose_two_succ (n + 2)]
    omega

/-- **The bound of 2080 is sharp.** -/
theorem exists_height_eq : ∃ text t, parse text = .ok t ∧ t.height = 2080 := by
  refine ⟨(tallest 63).written, tallest 63, ?_, ?_⟩
  · refine (spellable_tallest 63).parse_written ?_
    rw [nest_tallest]
    exact Nat.le_refl 64
  · rw [height_tallest, Nat.choose_two_right]

/-- A name with an argument, with 63 question marks behind it. -/
def tallText : String :=
  String.ofList ("A<B>".toList ++ List.replicate 63 '?')

/-- What is read may be higher than the number of levels. -/
theorem lt_height_tallText :
    parse tallText = .ok (optional 63 (.named "A" [.named "B" []])) ∧
      maxNesting < (optional 63 (.named "A" [.named "B" []])).height := by
  have hname : Dotted "B".toList :=
    dotted_of_isWellFormedName (List.all_eq_true.1 (by decide)) (by decide)
  have hargument : (named "B" []).Spellable := .named hname (by simp)
  have hspellable := (spellable_generic hargument).optional 63
  exact ⟨hspellable.parse_written (by decide), by decide⟩

end TypeRef

end ConfigDocs
