import ConfigDocs.TypeRef.Builtin

/-!
# Declared types, as they are written

A property declares its type in the notation of the host language: a name that may be qualified
with its namespace and may have type arguments, wrapped any number of times as an array `T[]` or a
nullable `T?`.  A text that is not of this form is kept as it stands, as a leaf of its own, so that
one bad declaration does not spoil its neighbours.

A reference has two texts.  `TypeRef.written` keeps every namespace, so that it can be read back;
`TypeRef.display` is for a reader of the documentation and keeps only what tells types apart at a
glance: the keyword of a built-in type and the last segment of any other name.
-/

set_option autoImplicit false

namespace ConfigDocs

/-- A declared type. -/
inductive TypeRef where
  /-- A name, possibly qualified, with its type arguments. -/
  | named (name : String) (args : List TypeRef)
  /-- A one-dimensional array. -/
  | array (element : TypeRef)
  /-- A type that also admits the absent value. -/
  | nullable (inner : TypeRef)
  /-- A text that is no type reference, kept as written. -/
  | unparsed (text : String)
deriving Repr, Inhabited

namespace TypeRef

/-! ## Equality -/

mutual

/-- Whether two references are equal, decided part by part. -/
def decEq : (a b : TypeRef) → Decidable (a = b)
  | .named n as, .named m bs =>
    match decEqList as bs with
    | .isTrue h => if hn : n = m then .isTrue (by rw [h, hn]) else .isFalse (by simp [hn])
    | .isFalse h => .isFalse (by simp [h])
  | .array a, .array b =>
    match decEq a b with
    | .isTrue h => .isTrue (by rw [h])
    | .isFalse h => .isFalse (by simp [h])
  | .nullable a, .nullable b =>
    match decEq a b with
    | .isTrue h => .isTrue (by rw [h])
    | .isFalse h => .isFalse (by simp [h])
  | .unparsed s, .unparsed t => if h : s = t then .isTrue (by rw [h]) else .isFalse (by simp [h])
  | .named .., .array _ => .isFalse (by simp)
  | .named .., .nullable _ => .isFalse (by simp)
  | .named .., .unparsed _ => .isFalse (by simp)
  | .array _, .named .. => .isFalse (by simp)
  | .array _, .nullable _ => .isFalse (by simp)
  | .array _, .unparsed _ => .isFalse (by simp)
  | .nullable _, .named .. => .isFalse (by simp)
  | .nullable _, .array _ => .isFalse (by simp)
  | .nullable _, .unparsed _ => .isFalse (by simp)
  | .unparsed _, .named .. => .isFalse (by simp)
  | .unparsed _, .array _ => .isFalse (by simp)
  | .unparsed _, .nullable _ => .isFalse (by simp)

/-- `decEq` along two lists of references. -/
def decEqList : (as bs : List TypeRef) → Decidable (as = bs)
  | [], [] => .isTrue rfl
  | [], _ :: _ => .isFalse (by simp)
  | _ :: _, [] => .isFalse (by simp)
  | a :: as, b :: bs =>
    match decEq a b with
    | .isTrue h =>
      match decEqList as bs with
      | .isTrue hs => .isTrue (by rw [h, hs])
      | .isFalse hs => .isFalse (by simp [hs])
    | .isFalse h => .isFalse (by simp [h])

end

instance : DecidableEq TypeRef := decEq

/-! ## Reading parts off a reference -/

/-- The reference without its outer nullable wrappers. -/
def stripNullable : TypeRef → TypeRef
  | .nullable inner => inner.stripNullable
  | other => other

/-- The built-in type a reference names; one with type arguments names none. -/
def builtin? : TypeRef → Option Builtin
  | .named name [] => Builtin.ofName? name
  | _ => none

/-! ## Sequences known by name

A generic type of the framework that enumerates its single argument.  The catalogue of types has
the first word on what is a sequence; these names count where it is silent. -/

/-- Simple names of the framework types that enumerate their single argument. -/
def sequenceNames : List String :=
  ["List", "IList", "IEnumerable", "ICollection", "IReadOnlyList", "IReadOnlyCollection",
    "HashSet", "ISet", "IReadOnlySet", "SortedSet", "LinkedList", "Collection",
    "ReadOnlyCollection", "ObservableCollection", "Queue", "Stack", "ImmutableArray",
    "ImmutableList", "ImmutableHashSet"]

/-- Whether a name, qualified or not, is that of a framework sequence. -/
def isSequenceName (name : String) : Bool :=
  sequenceNames.contains (Text.simpleName name)

/-! ## The two texts of a reference -/

mutual

/-- The characters of the written form. -/
def writtenChars : TypeRef → List Char
  | .named name [] => name.toList
  | .named name (arg :: args) =>
    name.toList ++ '<' :: (arg.writtenChars ++ (writtenMore args ++ ['>']))
  | .array element => element.writtenChars ++ ['[', ']']
  | .nullable inner => inner.writtenChars ++ ['?']
  | .unparsed text => text.toList

/-- The written type arguments after the first, each behind a comma and a space. -/
def writtenMore : List TypeRef → List Char
  | [] => []
  | arg :: args => ',' :: ' ' :: (arg.writtenChars ++ writtenMore args)

end

/-- The reference with every name in full, so that reading it gives the reference back. -/
def written (t : TypeRef) : String :=
  String.ofList t.writtenChars

/-- How a name without type arguments is displayed: by its keyword if it is that of a built-in
type, and by its last segment if it is not. -/
def displayedPlain (name : String) : List Char :=
  match Builtin.ofName? name with
  | some b => b.keyword.toList
  | none => Text.lastSegment '.' (Text.withoutGlobal name.toList)

mutual

/-- The characters of the displayed form. -/
def displayChars : TypeRef → List Char
  | .named name [] => displayedPlain name
  | .named name (arg :: args) =>
    Text.lastSegment '.' (Text.withoutGlobal name.toList) ++
      '<' :: (arg.displayChars ++ (displayMore args ++ ['>']))
  | .array element => element.displayChars ++ ['[', ']']
  | .nullable inner => inner.displayChars ++ ['?']
  | .unparsed text => text.toList

/-- The displayed type arguments after the first, each behind a comma and a space. -/
def displayMore : List TypeRef → List Char
  | [] => []
  | arg :: args => ',' :: ' ' :: (arg.displayChars ++ displayMore args)

end

/-- The reference as a reader of the documentation sees it, without namespaces. -/
def display (t : TypeRef) : String :=
  String.ofList t.displayChars

end TypeRef

end ConfigDocs
