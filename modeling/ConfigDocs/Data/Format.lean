import ConfigDocs.Data.Json
import ConfigDocs.Data.Toml.Reader
import ConfigDocs.Disk.Path
import ConfigDocs.Text.Basic

/-!
# The formats of data files

A data file is in JSON or in TOML.  The extension of its name tells which: `toml`, in any letter
case, means TOML, and everything else means JSON.
-/

set_option autoImplicit false

namespace ConfigDocs

/-- The format of a data file. -/
inductive DataFormat where
  | json
  | toml
deriving DecidableEq, Repr

namespace DataFormat

/-- The value a text in a format stands for. -/
def read : DataFormat → String → Option Data
  | json => Json.read
  | toml => Toml.read

/-- What a format forgives. -/
def dialect : DataFormat → Data.Dialect
  | json => Json.dialect
  | toml => Toml.dialect

/-- The format of the file at a path. -/
def ofPath (path : Path) : DataFormat :=
  match path.extension? with
  | none => json
  | some extension =>
    if Text.toLowerAscii (String.ofList extension) = "toml" then toml else json

end DataFormat

end ConfigDocs
