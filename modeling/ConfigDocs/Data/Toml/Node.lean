import ConfigDocs.Data.Basic

/-!
# The tables of a TOML document while it is read

A document builds its tables piece by piece: a header opens a table, a dotted key opens the tables
on its way, and an array of tables grows by one table at every header in double brackets.  What may
still be added to a table depends on how it came about, so a table remembers that:

* it is *implicit* as long as it only lies on the way to something and no header has named it;
* it is *dotted* if a dotted key made it.

A header may name a table once, and only one that is implicit and not dotted.  A dotted key may add
to the tables dotted keys have made and to no others.  A value, which includes every array and every
table in braces, is complete when it is read, and nothing can be added to it.
-/

set_option autoImplicit false

namespace ConfigDocs.Toml

/-- A table under construction, or a part of one. -/
inductive Node where
  /-- A complete value. -/
  | value (data : Data)
  /-- A table. -/
  | table (implicit dotted : Bool) (entries : List (String × Node))
  /-- An array of tables: the latest table, and the earlier ones from the latest on. -/
  | tables (latest : Node) (earlier : List Node)

namespace Node

/-- A table that a header has named, still empty. -/
def fresh : Node := .table false false []

/-! ## Values -/

mutual

/-- The value of a node. -/
def toData : Node → Data
  | .value data => data
  | .table _ _ entries => .record (entriesData entries)
  | .tables latest earlier => .list (earlierData earlier [latest.toData])

/-- The values of the entries of a table. -/
def entriesData : List (String × Node) → List (Option String × Data)
  | [] => []
  | (key, node) :: entries => (some key, node.toData) :: entriesData entries

/-- The values of earlier tables, in order, before the given ones. -/
def earlierData : List Node → List Data → List Data
  | [], later => later
  | node :: earlier, later => earlierData earlier (node.toData :: later)

end

/-! ## Entries -/

/-- The entry with the given key. -/
def child? (entries : List (String × Node)) (key : String) : Option Node :=
  entries.lookup key

/-- The entries with the one of the given key replaced, or a new one at the end. -/
def setEntry (key : String) (node : Node) : List (String × Node) → List (String × Node)
  | [] => [(key, node)]
  | (k, old) :: entries =>
    if k = key then (k, node) :: entries else (k, old) :: setEntry key node entries

/-! ## Changing a table that lies at the end of a path -/

/-- Changes the table at the end of a path, making the tables on the way that are missing.  An
array of tables is passed through its latest table.  A dotted path passes through implicit tables
only. -/
def changeAt (viaDots : Bool) (change : Node → Option Node) : List String → Node → Option Node
  | [], node => change node
  | key :: path, .table implicit dotted entries =>
    let put (node : Node) : Node := .table implicit dotted (setEntry key node entries)
    match child? entries key with
    | none => (changeAt viaDots change path (.table true viaDots [])).map put
    | some (.table imp dot sub) =>
      if viaDots && !imp then none
      else (changeAt viaDots change path (.table imp dot sub)).map put
    | some (.tables latest earlier) =>
      (changeAt viaDots change path latest).map fun node ↦ put (.tables node earlier)
    | some (.value _) => none
  | _ :: _, _ => none

/-- Adds an entry to a table, which must be of the right sort and not have the key yet. -/
def addEntry (viaDots : Bool) (key : String) (data : Data) : Node → Option Node
  | .table implicit dotted entries =>
    if dotted = viaDots ∧ (child? entries key).isNone then
      some (.table implicit dotted (setEntry key (.value data) entries))
    else none
  | _ => none

/-- Adds a value under a key that may be dotted. -/
def insert (path : List String) (key : String) (data : Data) (node : Node) : Option Node :=
  changeAt true (addEntry (!path.isEmpty) key data) path node

/-- Names a table by a header. -/
def nameTable (key : String) : Node → Option Node
  | .table implicit dotted entries =>
    match child? entries key with
    | none => some (.table implicit dotted (setEntry key fresh entries))
    | some (.table true false sub) =>
      some (.table implicit dotted (setEntry key (.table false false sub) entries))
    | some _ => none
  | _ => none

/-- Adds a table to an array of tables. -/
def appendTable (key : String) : Node → Option Node
  | .table implicit dotted entries =>
    match child? entries key with
    | none => some (.table implicit dotted (setEntry key (.tables fresh []) entries))
    | some (.tables latest earlier) =>
      some (.table implicit dotted (setEntry key (.tables fresh (latest :: earlier)) entries))
    | some _ => none
  | _ => none

end Node

end ConfigDocs.Toml
