import ConfigDocs.Disk.FileSystem

/-!
# Programs under observation

What a program does with a disk should not depend on which disk it is.  An *oracle* stands for all
of them: it answers a call in any way, and the answer may depend on every call that came before, so
whatever a disk does over time, with other programs at work on it, is what some oracle does.

`Observed` is the monad in which a program is run against an oracle and its calls are written down.
A statement about `Oracle.run` for every oracle is a statement about every outcome of every call.

The calls that can fail are of interest in order.  `Oracle.Accepts` says that none of a list of
calls fails, and `Oracle.Breaks` that one of them does and is the last one to be made.
-/

set_option autoImplicit false

namespace ConfigDocs

/-! ## Calls -/

/-- A call of an operation on files. -/
inductive Call where
  | isDirectory (path : Path)
  | isFile (path : Path)
  | canonical? (path : Path)
  | readText (path : Path)
  | makeDirectories (path : Path)
  | writeText (path : Path) (text : String)
deriving DecidableEq, Repr

namespace Call

/-- The path of a call. -/
def path : Call → Path
  | isDirectory p | isFile p | canonical? p | readText p | makeDirectories p | writeText p _ => p

/-- What a call is answered with. -/
def Reply : Call → Type
  | isDirectory _ => Bool
  | isFile _ => Bool
  | canonical? _ => Option Path
  | readText _ => Except Failure String
  | makeDirectories _ => Except Failure Unit
  | writeText _ _ => Except Failure Unit

/-- The failure of which an outcome tells. -/
def failureOf? {α : Type} : Except Failure α → Option Failure
  | .ok _ => none
  | .error failure => some failure

/-- The failure of which an answer tells, if it is the answer to a call that can fail. -/
def failure? : (call : Call) → call.Reply → Option Failure
  | isDirectory _, _ => none
  | isFile _, _ => none
  | canonical? _, _ => none
  | readText _, reply => failureOf? (reply : Except Failure String)
  | makeDirectories _, reply => failureOf? (reply : Except Failure Unit)
  | writeText _ _, reply => failureOf? (reply : Except Failure Unit)

end Call

/-! ## Oracles -/

/-- Answers to all calls, each of them after the calls that were made before it. -/
def Oracle : Type :=
  List Call → (call : Call) → call.Reply

/-- A program that is run against an oracle after some calls: its result, and its own calls. -/
def Observed (α : Type) : Type :=
  Oracle → List Call → α × List Call

/-- Runs a program against an oracle, after the calls in `past`. -/
def Oracle.run {α : Type} (oracle : Oracle) (past : List Call) (x : Observed α) : α × List Call :=
  x oracle past

instance : Monad Observed where
  pure a := fun _ _ ↦ (a, [])
  bind x f := fun oracle past ↦
    let first := oracle.run past x
    let second := oracle.run (past ++ first.2) (f first.1)
    (second.1, first.2 ++ second.2)

/-- The program that makes one call. -/
def Observed.call (call : Call) : Observed call.Reply :=
  fun oracle past ↦ (oracle past call, [call])

instance : Disk Observed where
  isDirectory p := Observed.call (.isDirectory p)
  isFile p := Observed.call (.isFile p)
  canonical? p := Observed.call (.canonical? p)
  readText p := Observed.call (.readText p)
  makeDirectories p := Observed.call (.makeDirectories p)
  writeText p text := Observed.call (.writeText p text)

namespace Oracle

variable {α β : Type} (oracle : Oracle) (past : List Call)

theorem run_pure (a : α) : oracle.run past (pure a) = (a, []) :=
  rfl

theorem run_bind (x : Observed α) (f : α → Observed β) :
    oracle.run past (x >>= f) =
      ((oracle.run (past ++ (oracle.run past x).2) (f (oracle.run past x).1)).1,
        (oracle.run past x).2 ++ (oracle.run (past ++ (oracle.run past x).2)
          (f (oracle.run past x).1)).2) :=
  rfl

theorem run_pure_bind (a : α) (f : α → Observed β) :
    oracle.run past (pure a >>= f) = oracle.run past (f a) := by
  rw [run_bind, run_pure, List.append_nil, List.nil_append]

theorem run_bind_pure (x : Observed α) (f : α → β) :
    oracle.run past (x >>= fun a ↦ pure (f a)) =
      (f (oracle.run past x).1, (oracle.run past x).2) := by
  rw [run_bind, run_pure, List.append_nil]

theorem run_bind_assoc {γ : Type} (x : Observed α) (f : α → Observed β) (g : β → Observed γ) :
    oracle.run past (x >>= f >>= g) = oracle.run past (x >>= fun a ↦ f a >>= g) := by
  simp only [run_bind, List.append_assoc]

end Oracle

instance : LawfulMonad Observed :=
  LawfulMonad.mk' Observed
    (fun x ↦ funext fun oracle ↦ funext fun past ↦ oracle.run_bind_pure past x id)
    (fun a f ↦ funext fun oracle ↦ funext fun past ↦ oracle.run_pure_bind past a f)
    (fun x f g ↦ funext fun oracle ↦ funext fun past ↦ oracle.run_bind_assoc past x f g)

/-! ## Calls that fail -/

namespace Oracle

variable (oracle : Oracle) (past : List Call)

/-- The failure of a call that is made after the calls in `past`. -/
def failure? (call : Call) : Option Failure :=
  call.failure? (oracle past call)

/-- None of these calls fails if they are made in order. -/
def Accepts (oracle : Oracle) : List Call → List Call → Prop
  | _, [] => True
  | past, call :: calls => oracle.failure? past call = none ∧ oracle.Accepts (past ++ [call]) calls

/-- Of these calls only the first ones are made: one of them fails, after which none is made.  What
has failed is known by the path of the call. -/
def Breaks (calls made : List Call) (failed : Path × Failure) : Prop :=
  ∃ before call after, calls = before ++ call :: after ∧ made = before ++ [call] ∧
    oracle.Accepts past before ∧ oracle.failure? (past ++ before) call = some failed.2 ∧
    call.path = failed.1

variable {oracle past}

theorem accepts_append {first second : List Call} :
    oracle.Accepts past (first ++ second) ↔
      oracle.Accepts past first ∧ oracle.Accepts (past ++ first) second := by
  induction first generalizing past with
  | nil => simp [Accepts]
  | cons call calls ih =>
    rw [List.cons_append, Accepts, Accepts, ih, and_assoc, List.append_assoc, List.singleton_append]

theorem accepts_singleton {call : Call} :
    oracle.Accepts past [call] ↔ oracle.failure? past call = none := by
  simp [Accepts]

theorem breaks_singleton {call : Call} {failure : Failure}
    (h : oracle.failure? past call = some failure) :
    oracle.Breaks past [call] [call] (call.path, failure) :=
  ⟨[], call, [], rfl, rfl, trivial, by simpa using h, rfl⟩

theorem Breaks.append_right {calls made : List Call} {failed : Path × Failure}
    (h : oracle.Breaks past calls made failed) (more : List Call) :
    oracle.Breaks past (calls ++ more) made failed := by
  obtain ⟨before, call, after, rfl, hmade⟩ := h
  exact ⟨before, call, after ++ more, by simp, hmade⟩

theorem Breaks.append_left {first calls made : List Call} {failed : Path × Failure}
    (h : oracle.Breaks (past ++ first) calls made failed) (hfirst : oracle.Accepts past first) :
    oracle.Breaks past (first ++ calls) (first ++ made) failed := by
  obtain ⟨before, call, after, rfl, rfl, haccepts, hfailure, hpath⟩ := h
  refine ⟨first ++ before, call, after, by simp, by simp, accepts_append.2 ⟨hfirst, haccepts⟩, ?_,
    hpath⟩
  rwa [List.append_assoc] at hfailure

/-- If some call fails, then not all are accepted. -/
theorem Breaks.not_accepts {calls made : List Call} {failed : Path × Failure}
    (h : oracle.Breaks past calls made failed) : ¬oracle.Accepts past calls := by
  obtain ⟨before, call, after, rfl, -, -, hfailure, -⟩ := h
  intro haccepts
  have hcall := (accepts_append.1 haccepts).2.1
  rw [hfailure] at hcall
  cases hcall

/-! ## Attempts -/

/-- How a program that is to make these calls ends: all of them are made and accepted, or the first
one that fails is the last one made, and its failure is the result. -/
def Attempts (oracle : Oracle) (past calls : List Call)
    (result : Except (Path × Failure) Unit × List Call) : Prop :=
  oracle.Accepts past calls ∧ result = (.ok (), calls) ∨
    ∃ made failed, oracle.Breaks past calls made failed ∧ result = (.error failed, made)

theorem attempts_nil : oracle.Attempts past [] (oracle.run past (pure (.ok ()))) :=
  .inl ⟨trivial, rfl⟩

/-- A program that makes one call and names its path in case of a failure. -/
theorem attempts_singleton {x : Observed (Except Failure Unit)} {call : Call}
    (hcalls : (oracle.run past x).2 = [call])
    (hfailure : oracle.failure? past call = Call.failureOf? (oracle.run past x).1) :
    oracle.Attempts past [call] (oracle.run past do
      let reply ← x
      pure (reply.mapError fun failure ↦ (call.path, failure))) := by
  rw [run_bind_pure, hcalls]
  cases hreply : (oracle.run past x).1 with
  | ok _ =>
    rw [hreply] at hfailure
    exact .inl ⟨accepts_singleton.2 hfailure, rfl⟩
  | error failure =>
    rw [hreply] at hfailure
    exact .inr ⟨_, _, breaks_singleton hfailure, rfl⟩

/-- One attempt after another that has not failed. -/
theorem Attempts.andThen {x y : Observed (Except (Path × Failure) Unit)} {calls more : List Call}
    (hx : oracle.Attempts past calls (oracle.run past x))
    (hy : oracle.Attempts (past ++ calls) more (oracle.run (past ++ calls) y)) :
    oracle.Attempts past (calls ++ more) (oracle.run past do
      match ← x with
      | .error failed => return .error failed
      | .ok () => y) := by
  rcases hx with ⟨haccepts, hrun⟩ | ⟨made, failed, hbreaks, hrun⟩
  · rw [run_bind, hrun]
    rcases hy with ⟨haccepts', hrun'⟩ | ⟨made', failed', hbreaks', hrun'⟩
    · exact .inl ⟨accepts_append.2 ⟨haccepts, haccepts'⟩, by simp only [hrun']⟩
    · exact .inr ⟨calls ++ made', failed', hbreaks'.append_left haccepts, by simp only [hrun']⟩
  · rw [run_bind, hrun]
    exact .inr ⟨made, failed, hbreaks.append_right more,
      Prod.ext rfl (List.append_nil made)⟩

end Oracle

end ConfigDocs
