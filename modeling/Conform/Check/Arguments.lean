import Conform.Check.Report

/-! The arguments of the command line. -/

namespace Conform

/-- What the command line asks for. -/
inductive Request where
  | check (source : SchemaSource) (defaults : Option String) (print : Bool)
      (documents : List String)
  | describe (source : SchemaSource)
  | version
  | help

/-- Why reading the arguments stops. -/
inductive Halt where
  /-- The arguments are not understood. -/
  | misused
  /-- They ask for something else. -/
  | instead (request : Request)

/-- The options and documents that were given so far. -/
structure Given where
  schema : Option String
  config : Option String
  defaults : Option String
  print : Bool
  /-- The documents, the last one first. -/
  documents : List String

/-- Nothing given. -/
def Given.nothing : Given :=
  ⟨none, none, none, false, []⟩

namespace Request

/-- Goes over the letters of short options. The letter `v` asks for more messages and may be repeated;
the version is told only before a command. -/
def readLetters (beforeCommand : Bool) : List Char → Except Halt Unit
  | [] => .ok ()
  | 'v' :: rest => readLetters beforeCommand rest
  | 'h' :: _ => .error (.instead .help)
  | 'V' :: _ => .error (if beforeCommand then .instead .version else .misused)
  | _ => .error .misused

/-- Whether an argument is one or more options, and not the value of one. -/
def isOption (argument : String) : Bool :=
  argument.startsWith "-" && argument ≠ "-"

/-- Splits a long option into its name and the value that follows an equals sign. -/
def splitOption (argument : String) : String × Option String :=
  let body := argument.toList.drop 2
  let name := body.takeWhile (· ≠ '=')
  (String.ofList name,
    match body.drop name.length with
    | [] => none
    | _ :: value => some (String.ofList value))

/-- Keeps the value of an option that may be given once; the value is not empty. -/
def setOnce (old : Option String) (value : String) : Except Halt (Option String) :=
  if old.isSome ∨ value = "" then .error .misused else .ok (some value)

/-- Keeps the value of an option with a value. Only a check takes a default. -/
def setOption (checks : Bool) (given : Given) (name value : String) : Except Halt Given :=
  match name, checks with
  | "schema", _ => do return { given with schema := ← setOnce given.schema value }
  | "config", _ => do return { given with config := ← setOnce given.config value }
  | "defaults", true => do return { given with defaults := ← setOnce given.defaults value }
  | _, _ => .error .misused

/-- Keeps an option without a value. -/
def setFlag (checks : Bool) (given : Given) (name : String) : Except Halt Given :=
  match name, checks with
  | "verbose", _ => .ok given
  | "help", _ => .error (.instead .help)
  | "print", true => if given.print then .error .misused else .ok { given with print := true }
  | _, _ => .error .misused

/-- Keeps a document, which only a check takes. -/
def addDocument (checks : Bool) (given : Given) (path : String) : Except Halt Given :=
  if checks ∧ path ≠ "" then .ok { given with documents := path :: given.documents }
  else .error .misused

/-- Whether an option has a value. -/
def takesValue (name : String) : Bool :=
  ["schema", "config", "defaults"].contains name

/-- Reads the arguments of a command. After two hyphens alone every argument is a document. -/
def readArguments (checks : Bool) : Given → List String → Except Halt Given
  | given, [] => .ok given
  | given, argument :: rest =>
    if argument = "--" then rest.foldlM (addDocument checks) given
    else if argument.startsWith "--" then
      match splitOption argument, rest with
      | (name, some value), rest => do readArguments checks (← setOption checks given name value) rest
      | (name, none), value :: later =>
        -- A value that looks like an option is taken for a missing value.
        if takesValue name then
          if isOption value then .error .misused
          else do readArguments checks (← setOption checks given name value) later
        else do readArguments checks (← setFlag checks given name) (value :: later)
      | (name, none), [] => setFlag checks given name
    else if isOption argument then do
      readLetters false (argument.toList.drop 1)
      readArguments checks given rest
    else do readArguments checks (← addDocument checks given argument) rest

/-- The files of a schema, which has to be given. -/
def source (given : Given) : Except Halt SchemaSource :=
  match given.schema with
  | some schema => .ok ⟨schema, given.config⟩
  | none => .error .misused

/-- The request of a check. There is at least one document. -/
def readCheck (arguments : List String) : Except Halt Request := do
  let given ← readArguments true .nothing arguments
  -- A check of nothing is a slip in the call.
  if given.documents = [] then throw .misused
  return .check (← source given) given.defaults given.print given.documents.reverse

/-- The request of a description. -/
def readDescribe (arguments : List String) : Except Halt Request := do
  return .describe (← source (← readArguments false .nothing arguments))

/-- The commands, one of which explains them. -/
def commands : List String :=
  ["check", "describe", "help"]

/-- The help on all commands or on one. -/
def readHelp : List String → Halt
  | [] => .instead .help
  | [command] => if commands.contains command then .instead .help else .misused
  | _ => .misused

/-- Reads the arguments up to a command and those of the command. -/
def readCommand : List String → Except Halt Request
  | [] => .error .misused
  | argument :: rest =>
    match argument with
    | "check" => readCheck rest
    | "describe" => readDescribe rest
    | "help" => .error (readHelp rest)
    | "--verbose" => readCommand rest
    | "--version" => .error (.instead .version)
    | "--help" => .error (.instead .help)
    | _ =>
      -- Only short options are left that may stand before a command.
      if isOption argument ∧ !argument.startsWith "--" then do
        readLetters true (argument.toList.drop 1)
        readCommand rest
      else .error .misused

/-- What arguments ask for; none if they are not understood. -/
def ofArguments? (arguments : List String) : Option Request :=
  match readCommand arguments with
  | .ok request => some request
  | .error (.instead request) => some request
  | .error .misused => none

/-- The paths of the files that a request reads. -/
def paths : Request → List String
  | check source defaults _ documents =>
    source.schema :: source.config.toList ++ defaults.toList ++ documents
  | describe source => source.schema :: source.config.toList
  | version => []
  | help => []

end Request

/-- The line that tells the version. -/
def versionLine : String := "strukt 0.1.0"

/-- How the program is used. -/
def usage : String :=
  unlines
    ["Usage: strukt [-v] check --schema FILE [--config FILE] [--defaults FILE] [--print] DOC...",
      "       strukt [-v] describe --schema FILE [--config FILE]",
      "       strukt --version"]

/-- Does what is asked for. -/
def Files.run (files : Files) (languages : Languages) : Request → Finish
  | .check source defaults print documents => files.check languages source defaults print documents
  | .describe source => files.describe languages source
  | .version => ⟨.success, unlines [versionLine], none⟩
  | .help => ⟨.success, usage, none⟩

/-- Does what arguments ask for; arguments that are not understood do nothing. -/
def Files.runArguments (files : Files) (languages : Languages) (arguments : List String) : Finish :=
  match Request.ofArguments? arguments with
  | some request => files.run languages request
  | none => ⟨.failure, "", none⟩

end Conform
