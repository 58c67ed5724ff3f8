import ConfigDocs.Text.Basic

/-!
# Names of files, each given out once

Within one pass no two files may have the same name, not even up to the case of the letters `A` to
`Z`, which some file systems ignore.  A ledger keeps the names that have been claimed, in lower
case.  A claim asks for a base name and an extension and gets the first free name among the base
itself, the base with `-2`, with `-3`, and so on.

There is always a free name among the first `n + 1` candidates when `n` names are claimed, because
the candidates are distinct; so the search looks no further.
-/

set_option autoImplicit false

namespace ConfigDocs

/-- The names claimed so far, in lower case, the latest first. -/
structure Ledger where
  /-- Claimed names. -/
  claimed : List String
deriving DecidableEq, Repr

namespace Ledger

/-- The ledger in which nothing is claimed. -/
def empty : Ledger := ⟨[]⟩

/-- Whether a name is claimed, up to letter case. -/
def contains (ledger : Ledger) (name : String) : Bool :=
  ledger.claimed.contains (Text.toLowerAscii name)

/-- The number of claimed names. -/
def size (ledger : Ledger) : Nat :=
  ledger.claimed.length

/-- Whether nothing is claimed. -/
def isEmpty (ledger : Ledger) : Bool :=
  ledger.claimed.isEmpty

/-- The candidates for a claim: the plain name, then the base with a running number from 2. -/
def candidate (base ext : String) : Nat → String
  | 0 => base ++ ext
  | k + 1 => base ++ "-" ++ toString (k + 2) ++ ext

/-- The position of the first candidate that is free. -/
def firstFree (ledger : Ledger) (base ext : String) : Nat :=
  ((List.range ledger.size).find? fun k ↦ !ledger.contains (candidate base ext k)).getD ledger.size

/-- The name a claim is answered with. -/
def freeName (ledger : Ledger) (base ext : String) : String :=
  candidate base ext (ledger.firstFree base ext)

/-- Enters a name. -/
def insert (ledger : Ledger) (name : String) : Ledger :=
  ⟨Text.toLowerAscii name :: ledger.claimed⟩

/-- Claims a name: the name given out and the ledger in which it is claimed. -/
def claim (ledger : Ledger) (base ext : String) : String × Ledger :=
  let name := ledger.freeName base ext
  (name, ledger.insert name)

@[simp] theorem contains_insert (ledger : Ledger) (name other : String) :
    (ledger.insert name).contains other =
      (Text.toLowerAscii other == Text.toLowerAscii name || ledger.contains other) := by
  simp only [insert, contains, List.contains_cons]

@[simp] theorem size_insert (ledger : Ledger) (name : String) :
    (ledger.insert name).size = ledger.size + 1 := rfl

end Ledger

end ConfigDocs
