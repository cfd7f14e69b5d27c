import Conform.Files.Basic

/-! What is wrong with a schema or with the files that declare one. -/

namespace Conform

/-- Why the text of a document was refused. -/
inductive LoadFailure where
  /-- The file could not be read. -/
  | unreadable (cause : Unreadable)
  /-- The text is no JSON document, or one of the wrong form read directly from it. -/
  | json
  /-- The text is no YAML document, or one of the wrong form read directly from it. -/
  | yaml
  /-- The document has not the form of a configuration. -/
  | data
deriving DecidableEq

/-- An error in the definition of a schema. -/
inductive SchemaError where
  /-- A description that means no schema, as it is quoted. -/
  | invalidSchema (quoted : String)
  /-- A name that is not registered. -/
  | invalidType (name : String)
  /-- A declared pattern that is no pattern. -/
  | invalidPattern (name : String)
  /-- A declaration that says nothing. -/
  | invalidConfig (name reason : String)
  /-- A document that could not be loaded. -/
  | load (origin : String) (failure : LoadFailure)
  /-- A description that means no schema and quotes a date that has no text. -/
  | unprintable
deriving DecidableEq

namespace LoadFailure

/-- The wording of the reason. -/
def message : LoadFailure → String
  | unreadable cause => cause.message
  | json => "JSON parse error"
  | yaml => "YAML parse error"
  | data => "data error"

end LoadFailure

namespace SchemaError

/-- The wording of the error. -/
def message : SchemaError → String
  | invalidSchema quoted => "Invalid schema: " ++ quoted
  | invalidType name => "Invalid type: " ++ name
  | invalidPattern name => "Invalid pattern for type `" ++ name ++ "`"
  | invalidConfig name reason => "Invalid config for type `" ++ name ++ "`: " ++ reason
  | load origin failure => "failed to load '" ++ origin ++ "': " ++ failure.message
  | unprintable => "Invalid schema"

end SchemaError

end Conform
