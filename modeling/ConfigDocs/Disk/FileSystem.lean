import ConfigDocs.Disk.Path

/-!
# A file system as a value

Directories and files, and nothing else: no links, no permissions, no other programs.  What is
known about a place in the tree is a list of entries, and a *place* is the list of names that lead
to it, the innermost first, so that the enclosing directory is the tail.  That every place with an
entry is enclosed by a directory is part of the type (`FileSystem.enclosed`).

A path is followed piece by piece (`FileSystem.follow`), each step from a directory.  Where the
path leads decides how an operation ends, and `Failure` names the ways in which it can fail.  What
the program may do with files is the class `Disk` at the end.
-/

set_option autoImplicit false

namespace ConfigDocs

/-! ## Failures -/

/-- Why an operation on the file system failed. -/
inductive Failure where
  /-- Something on the way, or what is wanted, does not exist. -/
  | notFound
  /-- Something stands where a directory is to be made. -/
  | alreadyExists
  /-- Something on the way is no directory. -/
  | notDirectory
  /-- A directory stands where a file is wanted. -/
  | isDirectory
  /-- A name, or the whole path, is longer than the system admits. -/
  | nameTooLong
  /-- The contents of a file are no text. -/
  | notText
  /-- The path holds the null character. -/
  | nullCharacter
  /-- Anything else, in the words of the system. -/
  | system (details : String)
deriving DecidableEq, Repr

/-- The wording of a failure. -/
def Failure.message : Failure → String
  | .notFound => "No such file or directory (os error 2)"
  | .alreadyExists => "File exists (os error 17)"
  | .notDirectory => "Not a directory (os error 20)"
  | .isDirectory => "Is a directory (os error 21)"
  | .nameTooLong => "File name too long (os error 36)"
  | .notText => "stream did not contain valid UTF-8"
  | .nullCharacter => "file name contained an unexpected NUL byte"
  | .system details => details

/-! ## Places and entries -/

/-- The names that lead to a place, the innermost first. -/
abbrev Place := List String

/-- What a file holds. -/
inductive Content where
  /-- A text. -/
  | text (text : String)
  /-- Bytes that are no text. -/
  | bytes (bytes : List UInt8)
deriving DecidableEq, Repr

/-- What stands at a place. -/
inductive Entry where
  | directory
  | file (content : Content)
deriving DecidableEq, Repr

/-- What a list of entries has at a place.  The root is always a directory. -/
def entryAt (entries : List (Place × Entry)) (place : Place) : Option Entry :=
  if place = [] then some .directory else entries.lookup place

/-- A tree of directories and files, with the directory that relative paths start from. -/
structure FileSystem where
  /-- What stands where; the first entry for a place is the one that counts. -/
  entries : List (Place × Entry)
  /-- Where relative paths start. -/
  workingPlace : Place
  /-- Every place with an entry is enclosed by a directory. -/
  enclosed : ∀ (name : String) (place : Place), (entryAt entries (name :: place)).isSome →
    entryAt entries place = some .directory

namespace FileSystem

/-- What stands at a place. -/
def occupant? (fs : FileSystem) (place : Place) : Option Entry :=
  entryAt fs.entries place

/-- The file system that holds nothing but the root. -/
def empty : FileSystem where
  entries := []
  workingPlace := []
  enclosed := by
    intro name place h
    simp [entryAt] at h

theorem entryAt_cons (entries : List (Place × Entry)) (name : String) (place : Place)
    (entry : Entry) (other : Place) :
    entryAt ((name :: place, entry) :: entries) other =
      if other = name :: place then some entry else entryAt entries other := by
  unfold entryAt
  by_cases hnil : other = []
  · subst hnil
    simp
  · by_cases hother : other = name :: place
    · subst hother
      simp
    · have hbeq : (other == name :: place) = false := by simpa using hother
      simp [hnil, hother, List.lookup_cons, hbeq]

/-- Puts an entry into a directory, at a place where no directory stands yet. -/
def put (fs : FileSystem) (name : String) (place : Place) (entry : Entry)
    (hparent : fs.occupant? place = some .directory)
    (hfree : fs.occupant? (name :: place) ≠ some .directory) : FileSystem where
  entries := (name :: place, entry) :: fs.entries
  workingPlace := fs.workingPlace
  enclosed := by
    intro inner outer h
    rw [entryAt_cons] at h ⊢
    by_cases hinner : inner :: outer = name :: place
    · obtain ⟨-, rfl⟩ := List.cons.inj hinner
      rw [if_neg (by simp)]
      exact hparent
    · rw [if_neg hinner] at h
      have hdir := fs.enclosed inner outer h
      split
      · rename_i houter
        exact absurd (houter ▸ hdir) hfree
      · exact hdir

@[simp] theorem occupant?_put (fs : FileSystem) (name : String) (place : Place) (entry : Entry)
    (hparent : fs.occupant? place = some .directory)
    (hfree : fs.occupant? (name :: place) ≠ some .directory) (other : Place) :
    (fs.put name place entry hparent hfree).occupant? other =
      if other = name :: place then some entry else fs.occupant? other :=
  entryAt_cons ..

/-! ## Following a path -/

/-- The greatest length of a name in bytes. -/
def maxNameLength : Nat := 255

/-- The greatest length of a path in bytes. -/
def maxPathLength : Nat := 4095

/-- Whether a name is too long to exist. -/
def isTooLong (name : String) : Bool :=
  maxNameLength < name.utf8ByteSize

/-- Takes one step from a directory. -/
def step (fs : FileSystem) (place : Place) (piece : List Char) : Except Failure Place :=
  match fs.occupant? place with
  | none => .error .notFound
  | some (.file _) => .error .notDirectory
  | some .directory =>
    if Path.isIdle piece then .ok place
    else if piece = ['.', '.'] then .ok place.tail
    else
      let name := String.ofList piece
      if isTooLong name then .error .nameTooLong
      else if (fs.occupant? (name :: place)).isSome then .ok (name :: place)
      else .error .notFound

/-- Follows pieces from a place. -/
def follow (fs : FileSystem) : Place → List (List Char) → Except Failure Place
  | place, [] => .ok place
  | place, piece :: pieces =>
    match fs.step place piece with
    | .error failure => .error failure
    | .ok next => fs.follow next pieces

/-- Where a path starts, and its pieces; fails for a path that no operation accepts. -/
def start (fs : FileSystem) (p : Path) : Except Failure (Place × List (List Char)) :=
  let s := p.text.toList
  if s.contains '\x00' then .error .nullCharacter
  else if s.isEmpty then .error .notFound
  else if maxPathLength < p.text.utf8ByteSize then .error .nameTooLong
  else
    match s with
    | '/' :: rest => .ok ([], Text.segments '/' rest)
    | _ => .ok (fs.workingPlace, Text.segments '/' s)

/-- The place a path leads to. -/
def locate (fs : FileSystem) (p : Path) : Except Failure Place :=
  match fs.start p with
  | .error failure => .error failure
  | .ok (place, pieces) => fs.follow place pieces

/-- What a path leads to. -/
def stat? (fs : FileSystem) (p : Path) : Option Entry :=
  match fs.locate p with
  | .error _ => none
  | .ok place => fs.occupant? place

/-- Whether a path leads to a directory. -/
def isDirectory (fs : FileSystem) (p : Path) : Bool :=
  fs.stat? p == some .directory

/-- Whether a path leads to a file. -/
def isFile (fs : FileSystem) (p : Path) : Bool :=
  match fs.stat? p with
  | some (.file _) => true
  | _ => false

/-- The absolute path of a place, without any idle piece. -/
def pathOf (place : Place) : Path :=
  ⟨"/" ++ "/".intercalate place.reverse⟩

/-- The absolute path of what a path leads to. -/
def canonical? (fs : FileSystem) (p : Path) : Option Path :=
  match fs.locate p with
  | .error _ => none
  | .ok place => some (pathOf place)

/-- The text of a file. -/
def readText (fs : FileSystem) (p : Path) : Except Failure String :=
  match fs.locate p with
  | .error failure => .error failure
  | .ok place =>
    match fs.occupant? place with
    | none => .error .notFound
    | some .directory => .error .isDirectory
    | some (.file (.bytes _)) => .error .notText
    | some (.file (.text text)) => .ok text

/-! ## Changing the tree -/

/-- The last piece of a path that is not empty, the pieces before it, and whether slashes follow
it. -/
def lastPiece (pieces : List (List Char)) : Option (List (List Char) × List Char × Bool) :=
  match pieces.reverse.dropWhile (· == []) with
  | [] => none
  | last :: before => some (before.reverse, last, pieces.getLast? == some [])

/-- Where a path ends: the directory that encloses the end, the last piece, and whether slashes
follow it.  A path without a last piece is the root. -/
def enclosing (fs : FileSystem) (p : Path) : Except Failure (Option (Place × List Char × Bool)) :=
  match fs.start p with
  | .error failure => .error failure
  | .ok (place, pieces) =>
    match lastPiece pieces with
    | none => .ok none
    | some (before, last, slashes) =>
      match fs.follow place before with
      | .error failure => .error failure
      | .ok outer => .ok (some (outer, last, slashes))

/-- Makes a directory. -/
def makeDirectory (fs : FileSystem) (p : Path) : Except Failure FileSystem :=
  match fs.enclosing p with
  | .error failure => .error failure
  | .ok none => .error .alreadyExists
  | .ok (some (outer, last, _)) =>
    if hparent : fs.occupant? outer = some .directory then
      if Path.isIdle last ∨ last = ['.', '.'] then .error .alreadyExists
      else if isTooLong (String.ofList last) then .error .nameTooLong
      else if hfree : fs.occupant? (String.ofList last :: outer) = none then
        .ok (fs.put (String.ofList last) outer .directory hparent (by simp [hfree]))
      else .error .alreadyExists
    else .error .notDirectory

/-- Writes a file, in place of one that may be there. -/
def writeContent (fs : FileSystem) (p : Path) (content : Content) : Except Failure FileSystem :=
  match fs.enclosing p with
  | .error failure => .error failure
  | .ok none => .error .isDirectory
  | .ok (some (outer, last, slashes)) =>
    if hparent : fs.occupant? outer = some .directory then
      if Path.isIdle last ∨ last = ['.', '.'] ∨ slashes then .error .isDirectory
      else if isTooLong (String.ofList last) then .error .nameTooLong
      else if hfree : fs.occupant? (String.ofList last :: outer) = some .directory then
        .error .isDirectory
      else .ok (fs.put (String.ofList last) outer (.file content) hparent hfree)
    else .error .notDirectory

/-- Makes a directory unless it is there already; a file in its place is a failure.  The empty path
asks for nothing. -/
def ensureDirectory (fs : FileSystem) (p : Path) : Except Failure Unit × FileSystem :=
  if p.text.isEmpty then (.ok (), fs)
  else
    match fs.makeDirectory p with
    | .ok fs' => (.ok (), fs')
    | .error failure => if fs.isDirectory p then (.ok (), fs) else (.error failure, fs)

/-- Makes a directory, and if a parent is missing, first that one in the same way.  Directories
made before a failure stay. -/
def makeDirectoriesFrom (fs : FileSystem) (p : Path) : List Path → Except Failure Unit × FileSystem
  | [] => fs.ensureDirectory p
  | parent :: more =>
    match fs.ensureDirectory p with
    | (.error .notFound, _) =>
      match fs.makeDirectoriesFrom parent more with
      | (.ok (), fs') => fs'.ensureDirectory p
      | failed => failed
    | result => result

/-- Makes a directory and the parents it needs. -/
def makeDirectories (fs : FileSystem) (p : Path) : Except Failure Unit × FileSystem :=
  fs.makeDirectoriesFrom p p.parents

/-! ## What there is -/

/-- The names that lead from one place to another, if the first encloses the second. -/
def namesBelow (outer place : Place) : Option (List String) :=
  outer.reverse.isPrefixOf? place.reverse

/-- How an entry at the end of the given names is listed: as a path, with a slash behind it if it is
a directory. -/
def listedPath (names : List String) (entry : Entry) : String :=
  let path := "/".intercalate names
  if entry = .directory then path ++ "/" else path

/-- Everything below a place, by its path from there, in the order of these paths. -/
def listing (fs : FileSystem) (outer : Place) : List (String × Entry) :=
  let places := (fs.entries.map Prod.fst).eraseDups
  let found := places.filterMap fun place ↦
    match namesBelow outer place, fs.occupant? place with
    | some (name :: names), some entry => some (listedPath (name :: names) entry, entry)
    | _, _ => none
  found.mergeSort fun a b ↦ a.1 ≤ b.1

end FileSystem

/-! ## What the program asks of a disk

Everything the program does with files goes through six operations, and it is written once for
every monad that has them.  The state monad over a file system is the one in which its behaviour
can be studied; the command line runs it in `IO`.  An operation reports a failure as a value, since
most failures only end a single pass. -/

/-- The operations on files. -/
class Disk (m : Type → Type) where
  /-- Whether a path leads to a directory. -/
  isDirectory : Path → m Bool
  /-- Whether a path leads to a file. -/
  isFile : Path → m Bool
  /-- The absolute path of what a path leads to. -/
  canonical? : Path → m (Option Path)
  /-- The text of a file. -/
  readText : Path → m (Except Failure String)
  /-- Makes a directory and the parents it needs. -/
  makeDirectories : Path → m (Except Failure Unit)
  /-- Writes a text into a file, in place of what may be there. -/
  writeText : Path → String → m (Except Failure Unit)

instance : Disk (StateM FileSystem) where
  isDirectory p := fun fs ↦ (fs.isDirectory p, fs)
  isFile p := fun fs ↦ (fs.isFile p, fs)
  canonical? p := fun fs ↦ (fs.canonical? p, fs)
  readText p := fun fs ↦ (fs.readText p, fs)
  makeDirectories p := fun fs ↦ fs.makeDirectories p
  writeText p text := fun fs ↦
    match fs.writeContent p (.text text) with
    | .ok fs' => (.ok (), fs')
    | .error failure => (.error failure, fs)

end ConfigDocs
