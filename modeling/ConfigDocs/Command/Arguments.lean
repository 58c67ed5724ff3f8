import ConfigDocs.Disk.Path

/-!
# The command line

The first argument names a command, and the rest are its options, each of which takes a value.  The
value stands in the next argument, or in the same one: right behind the letter of an option, with an
equals sign between them or without, and behind the word of an option with an equals sign.

A value in an argument of its own may not look like an option, a path may not be empty, and only
the option for model files may be repeated.  Whatever does not fit is a mistake in the use of the
program, and which mistake it is makes no difference.
-/

set_option autoImplicit false

namespace ConfigDocs

/-! ## Commands -/

/-- Where models and settings come from. -/
structure Input where
  /-- Model files. -/
  models : List Path
  /-- The settings file. -/
  settings : Option Path
deriving DecidableEq, Repr

/-- What the program is asked to do. -/
inductive Command where
  /-- Write the documentation of one type, or of every type that asks for it. -/
  | generate (input : Input) (projectDirectory : Option Path) (projectName typeName : Option String)
  /-- List the types that ask for documentation. -/
  | list (input : Input)
  /-- Describe the format of model files. -/
  | schema
  /-- Show the documentation of a type without writing it. -/
  | preview (input : Input) (typeName : String)
deriving DecidableEq, Repr

namespace Command

/-! ## Options -/

/-- An option. -/
inductive Flag where
  | model
  | settings
  | projectDirectory
  | projectName
  | typeName
deriving DecidableEq, Repr

namespace Flag

/-- The word of an option. -/
def word : Flag → List Char
  | model => "model".toList
  | settings => "config".toList
  | projectDirectory => "project-dir".toList
  | projectName => "project-name".toList
  | typeName => "type".toList

/-- The letter of an option. -/
def letter? : Flag → Option Char
  | model => some 'm'
  | settings => some 'c'
  | _ => none

/-- Whether an option may be given more than once. -/
def isRepeatable (flag : Flag) : Bool :=
  flag == model

/-- Whether an option may have a value: a path may not be empty. -/
def admits : Flag → String → Bool
  | model, value | settings, value | projectDirectory, value => !value.isEmpty
  | projectName, _ | typeName, _ => true

end Flag

/-- The options for the input of a command. -/
def inputFlags : List Flag :=
  [.model, .settings]

/-! ## Arguments -/

/-- The option an argument gives, and the value if that stands in the same argument. -/
def readArgument (flags : List Flag) : List Char → Option (Flag × Option String)
  | '-' :: '-' :: body =>
    match flags.find? fun flag ↦ flag.word == body.takeWhile (· != '=') with
    | none => none
    | some flag =>
      match body.dropWhile (· != '=') with
      | [] => some (flag, none)
      | _ :: value => some (flag, some (String.ofList value))
  | '-' :: letter :: body =>
    match flags.find? fun flag ↦ flag.letter? == some letter with
    | none => none
    | some flag =>
      match body with
      | [] => some (flag, none)
      | '=' :: value => some (flag, some (String.ofList value))
      | value => some (flag, some (String.ofList value))
  | _ => none

/-- Whether an argument looks like an option; a hyphen alone does not. -/
def looksLikeOption (argument : String) : Bool :=
  match argument.toList with
  | '-' :: _ :: _ => true
  | _ => false

/-- The argument that ends the options. -/
def optionsEnd : String := "--"

/-- The options and values of arguments in order. -/
def readOptions (flags : List Flag) : List String → Option (List (Flag × String))
  | [] => some []
  | argument :: rest =>
    match readArgument flags argument.toList with
    | none => if argument = optionsEnd ∧ rest = [] then some [] else none
    | some (flag, some value) => (readOptions flags rest).map ((flag, value) :: ·)
    | some (flag, none) =>
      match rest with
      | [] => none
      | value :: rest =>
        if looksLikeOption value then none
        else (readOptions flags rest).map ((flag, value) :: ·)

/-- The values given for an option. -/
def valuesOf (options : List (Flag × String)) (flag : Flag) : List String :=
  (options.filter fun option ↦ option.1 == flag).map Prod.snd

/-- Whether options are given as often, and with such values, as they may be. -/
def areAdmissible (flags : List Flag) (options : List (Flag × String)) : Bool :=
  options.all (fun option ↦ option.1.admits option.2) &&
    flags.all fun flag ↦ flag.isRepeatable || (valuesOf options flag).length ≤ 1

/-- The options and values of arguments, if they are admissible. -/
def options? (flags : List Flag) (arguments : List String) : Option (List (Flag × String)) :=
  (readOptions flags arguments).filter (areAdmissible flags)

/-- The value given for an option. -/
def valueOf (options : List (Flag × String)) (flag : Flag) : Option String :=
  (valuesOf options flag).head?

/-- The input that options give. -/
def inputOf (options : List (Flag × String)) : Input where
  models := (valuesOf options .model).map Path.mk
  settings := (valueOf options .settings).map Path.mk

/-! ## Reading a command line -/

/-- The command that arguments give. -/
def ofArguments? : List String → Option Command
  | "generate" :: arguments => do
    let options ← options? (inputFlags ++ [.projectDirectory, .projectName, .typeName]) arguments
    return .generate (inputOf options) ((valueOf options .projectDirectory).map Path.mk)
      (valueOf options .projectName) (valueOf options .typeName)
  | "list" :: arguments => do
    let options ← options? inputFlags arguments
    return .list (inputOf options)
  | "schema" :: arguments => do
    let _ ← options? [] arguments
    return .schema
  | "preview" :: arguments => do
    let options ← options? (inputFlags ++ [.typeName]) arguments
    let typeName ← valueOf options .typeName
    return .preview (inputOf options) typeName
  | _ => none

end Command

end ConfigDocs
