import Conform.Config.Reader
import Conform.Schema.Factory

/-! Structs and values from files. -/

namespace Conform

/-- The files that a struct is compiled from. -/
structure SchemaSource where
  schema : String
  /-- The file of declared types. -/
  config : Option String

/-- Why a check cannot be completed: the path of a file, and what is wrong with it. -/
inductive CheckError where
  | config (path : String) (cause : SchemaError)
  | types (path : String) (cause : SchemaError)
  | schema (path : String) (cause : SchemaError)
  | compilation (path : String) (cause : SchemaError)
  | document (path : String) (cause : SchemaError)
  /-- A checked value has no document. -/
  | print (path : String) (value : Value)
  /-- The validation stopped before it came to an end. -/
  | unfinished (path : String)

/-- The wording of the error. -/
def CheckError.message : CheckError → String
  | config path cause => "failed to load type config " ++ path ++ ": " ++ cause.message
  | types path cause => "invalid type config " ++ path ++ ": " ++ cause.message
  | schema path cause => "failed to read schema " ++ path ++ ": " ++ cause.message
  | compilation path cause => "failed to compile schema " ++ path ++ ": " ++ cause.message
  | document path cause => "failed to read document " ++ path ++ ": " ++ cause.message
  | print path value => "cannot print " ++ path ++ ": " ++ value.notRepresentable
  | unfinished path => "cannot check " ++ path

namespace Files

/-- The factory of the built-in types and those that a file declares. -/
def loadFactory (files : Files) (languages : Languages) :
    Option String → Except CheckError Factory
  | none => .ok .builtin
  | some path => do
    -- Reading and building fail under different words, so each has its own error.
    let config ← (Config.load files languages path).mapError (.config path)
    let types ← (config.registry languages.patterns .builtin).mapError (.types path)
    return .ofTypes types

/-- The value of a document. -/
def loadValue (files : Files) (languages : Languages) (path : String) :
    Except CheckError Value := do
  return .ofJson (← (files.readDocument languages path).mapError (.document path))

/-- The struct of a schema file, with the value of another file as its default. -/
def loadStruct (files : Files) (languages : Languages) (source : SchemaSource)
    (defaults : Option String) : Except CheckError Struct := do
  let factory ← files.loadFactory languages source.config
  -- The default is read before the schema, so its failure comes first.
  let attached ← defaults.mapM (files.loadValue languages)
  let factory := { factory with defaults := attached.map .value }
  let document ← (files.readDocument languages source.schema).mapError (.schema source.schema)
  (factory.compile [] (.ofJson document)).mapError (.compilation source.schema)

/-- Checks the document of a file. No schema from a file holds references, so the height of the schema
bounds how deep the check goes. -/
def checkDocument (files : Files) (languages : Languages) (struct : Struct) (path : String) :
    Except CheckError Outcome := do
  let value ← files.loadValue languages path
  match struct.schema.validate [] struct.schema.height value none with
  -- What is shown of an error has the type of the whole in its first failure.
  | .ok outcome => return outcome.mapError ValidationError.settle
  | .error _ => throw (.unfinished path)

end Files

/-- What a struct was compiled to, in two lines. -/
def Struct.summary (struct : Struct) : String :=
  "kind: " ++ (struct.kind []).name ++ "\ntype: " ++ struct.type []

end Conform
