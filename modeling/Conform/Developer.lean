import Conform.Number.Notation
import Conform.Schema.Description
import Conform.Schema.Error
import Conform.Schema.Registry

/-! Developer text spells out how a value or a schema is made up. -/

namespace Conform.Developer

/-- One character between quotes: delimiters and control characters are escaped. -/
def escape (c : Char) : List Char :=
  if c = '"' then ['\\', '"']
  else if c = '\\' then ['\\', '\\']
  else if c = '\n' then ['\\', 'n']
  else if c = '\r' then ['\\', 'r']
  else if c = '\t' then ['\\', 't']
  else if c = '\x00' then ['\\', '0']
  else if c.toNat < 0x20 ∨ c.toNat = 0x7f then
    ['\\', 'u', '\x7b'] ++ Nat.toDigits 16 c.toNat ++ ['\x7d']
  else [c]

/-- A text between quotes. -/
def quoted (text : String) : String :=
  "\"" ++ String.ofList (text.toList.flatMap escape) ++ "\""

/-- A truth value. -/
def truth (b : Bool) : String :=
  if b then "true" else "false"

/-- Parts between brackets. -/
def listed (parts : List String) : String :=
  "[" ++ String.intercalate ", " parts ++ "]"

/-- Names and parts between braces. -/
def tabled (parts : List (String × String)) : String :=
  "\x7b" ++ String.intercalate ", " (parts.map fun part => quoted part.1 ++ ": " ++ part.2) ++ "\x7d"

/-- A constructor applied to one part. -/
def applied (constructor part : String) : String :=
  constructor ++ "(" ++ part ++ ")"

/-- A constructor with named parts; an open one has more than are shown. -/
def record (constructor : String) (parts : List (String × String)) (isOpen : Bool) : String :=
  let shown := parts.map fun part => part.1 ++ ": " ++ part.2
  let shown := if isOpen then shown ++ [".."] else shown
  constructor ++ " \x7b " ++ String.intercalate ", " shown ++ " \x7d"

/-- An array of numbers. -/
def typedArray : TypedArray → String
  | .int8 items => applied "Int8" (listed (items.map fun n => toString n.toInt))
  | .uint8 items => applied "Uint8" (listed (items.map fun n => toString n.toNat))
  | .uint8Clamped items => applied "Uint8Clamped" (listed (items.map fun n => toString n.toNat))
  | .int16 items => applied "Int16" (listed (items.map fun n => toString n.toInt))
  | .uint16 items => applied "Uint16" (listed (items.map fun n => toString n.toNat))
  | .int32 items => applied "Int32" (listed (items.map fun n => toString n.toInt))
  | .uint32 items => applied "Uint32" (listed (items.map fun n => toString n.toNat))
  | .float32 items => applied "Float32" (listed (items.map Single.toDeveloperText))
  | .float64 items => applied "Float64" (listed (items.map Double.toDeveloperText))

mutual

/-- A value. -/
def value : Value → String
  | .undefined => "Undefined"
  | .null => "Null"
  | .bool b => applied "Bool" (truth b)
  | .number n => applied "Number" n.toDeveloperText
  | .string text => applied "String" (quoted text)
  | .symbol description => applied "Symbol" (quoted description)
  | .array items => applied "Array" (listed (values items))
  | .object ms => applied "Object" (tabled (members ms))
  | .arguments items => applied "Arguments" (listed (values items))
  | .date (some instant) => applied "Date" (applied "Some" instant.toDeveloperText)
  | .date none => applied "Date" "None"
  | .regexp source flags =>
    applied "RegExp" (record "RegExp" [("source", quoted source), ("flags", quoted flags)] false)
  | .error name message =>
    applied "Error"
      (record "ErrorValue" [("name", quoted name), ("message", quoted message)] false)
  | .map es => applied "Map" (listed (entries es))
  | .set items => applied "Set" (listed (values items))
  | .buffer bytes => applied "Buffer" (listed (bytes.map fun byte => toString byte.toNat))
  | .typedArray elements => applied "TypedArray" (typedArray elements)
  | .function callable =>
    applied "Function" (record "Function"
      [("name", quoted callable.name), ("generator", truth callable.generator)] true)
  | .host owned =>
    applied "Host" (record "HostObject"
      [("class_tag", quoted owned.classTag), ("type_name", quoted owned.payload)] true)
termination_by structural v => v

/-- The values of a list. -/
def values : List Value → List String
  | [] => []
  | item :: rest => value item :: values rest
termination_by structural items => items

/-- The members of an object. -/
def members : List (String × Value) → List (String × String)
  | [] => []
  | (name, item) :: rest => (name, value item) :: members rest
termination_by structural ms => ms

/-- The entries of a map. -/
def entries : List (Value × Value) → List String
  | [] => []
  | (key, item) :: rest => ("(" ++ value key ++ ", " ++ value item ++ ")") :: entries rest
termination_by structural es => es

end

mutual

/-- A default. -/
def defaults : Defaults → String
  | .value v => applied "Value" (value v)
  | .compute _ => "Compute(<function>)"
  | .fields table => applied "Fields" (tabled (defaultEntries table))
termination_by structural d => d

/-- The entries of a table of defaults. -/
def defaultEntries : List (String × Defaults) → List (String × String)
  | [] => []
  | (name, entry) :: rest => (name, defaults entry) :: defaultEntries rest
termination_by structural table => table

end

/-- The name of a kind with a capital letter. -/
def kind (k : Kind) : String :=
  k.name.capitalize

/-- A schema. -/
def schema (links : Links) (s : Schema) : String :=
  record "Schema" [("kind", kind (s.kind links)), ("type", quoted (s.type links))] false

mutual

/-- A description. -/
def description (links : Links) : Description → String
  | .shorthand text => applied "Shorthand" (quoted text)
  | .items parts => applied "Items" (listed (descriptions links parts))
  | .shape fields => applied "Shape" (tabled (fieldDescriptions links fields))
  | .predicate _ => "Predicate(<function>)"
  | .node s => applied "Node" (schema links s)
  | .struct source s =>
    applied "Struct"
      (record "Struct" [("schema", description links source), ("node", schema links s)] true)
  | .value v => applied "Value" (value v)
termination_by structural d => d

/-- The descriptions of a list. -/
def descriptions (links : Links) : List Description → List String
  | [] => []
  | item :: rest => description links item :: descriptions links rest
termination_by structural items => items

/-- The descriptions of declared names. -/
def fieldDescriptions (links : Links) : List (String × Description) → List (String × String)
  | [] => []
  | (name, item) :: rest => (name, description links item) :: fieldDescriptions links rest
termination_by structural fields => fields

end

/-- A registry, by its names. -/
def registry (r : Registry) : String :=
  record "TypeRegistry" [("types", listed (r.names.map quoted))] false

/-- An error in the definition of a schema. -/
def schemaError : SchemaError → String
  | .invalidSchema text => applied "InvalidSchema" (quoted text)
  | .invalidType name => applied "InvalidType" (quoted name)
  | .invalidPattern name => record "InvalidPattern" [("name", quoted name)] true
  | .invalidConfig name reason =>
    record "InvalidConfig" [("name", quoted name), ("reason", quoted reason)] false
  | .load origin failure =>
    record "Load" [("origin", quoted origin), ("reason", quoted failure.message)] false
  | .unprintable => "InvalidSchema"

end Conform.Developer
