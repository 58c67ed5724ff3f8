import ConfigDocs.Command.Run

/-!
# The program

The operations on files, carried out on the disk of the machine, and the entry point.
-/

set_option autoImplicit false

namespace ConfigDocs

/-- The failure an operation of the machine reports. -/
def failureOf : IO.Error → Failure
  | .noFileOrDirectory .. => .notFound
  | .alreadyExists .. => .alreadyExists
  | .inappropriateType _ 21 _ => .isDirectory
  | .inappropriateType .. => .notDirectory
  | error => .system (toString error)

/-- Carries out an operation, with its failure as a value. -/
def attempt {α : Type} (operation : IO α) : IO (Except Failure α) := do
  try
    return .ok (← operation)
  catch error => return .error (failureOf error)

/-- Whether a path leads to a directory of the machine. -/
def leadsToDirectory (path : Path) : IO Bool := do
  if path.text.isEmpty then return false
  let found ← attempt (IO.FS.realPath (path.text ++ "/."))
  return found.toOption.isSome

instance : Disk IO where
  isDirectory := leadsToDirectory
  isFile path := do
    let found ← attempt (IO.FS.realPath path.text)
    return found.toOption.isSome && !(← leadsToDirectory path)
  canonical? path := do
    let found ← attempt (IO.FS.realPath path.text)
    return found.toOption.map fun real ↦ ⟨real.toString⟩
  readText path := do
    match ← attempt (IO.FS.readBinFile path.text) with
    | .error failure => return .error failure
    | .ok bytes =>
      match String.fromUTF8? bytes with
      | some text => return .ok text
      | none => return .error .notText
  makeDirectories path := attempt (IO.FS.createDirAll path.text)
  writeText path text := attempt (IO.FS.writeFile path.text text)

/-- What is said about arguments that give no command. -/
def usage : String :=
  "Usage: confdoc <generate|list|schema|preview> [OPTIONS]"

end ConfigDocs

open ConfigDocs in
/-- Runs the program. -/
def main (arguments : List String) : IO UInt32 := do
  let outcome : Outcome ← Command.runArguments arguments
  match outcome with
  | .misuse => IO.eprintln usage
  | .failed error => IO.eprintln error.report
  | .done output => IO.print output
  return outcome.exitCode.toUInt32
