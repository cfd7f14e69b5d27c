import Conform.Schema.Description
import Conform.Schema.Shorthand

/-! Compiling looks up the names in a description and builds its schema, children first. -/

namespace Conform

namespace Scope

/-- The error of a description that means no schema. -/
def invalid (scope : Scope) (description : Description) : SchemaError :=
  match description.toText? scope.links with
  | some text => .invalidSchema text
  -- A date without text leaves nothing to quote.
  | none => .unprintable

mutual

/-- Builds the schema of a description. What is finished already is taken as it is and keeps its own
default. -/
def compile (scope : Scope) (defaults : Option Defaults) : Description → Built
  | .node schema => .ok schema
  | .struct _ schema => .ok schema
  | .predicate predicate => .ok (custom predicate defaults)
  -- No element type can be read off an empty array.
  | .items [] => .error (scope.invalid (.items []))
  -- A single item speaks of every element; more than one, each of its own place.
  | .items [element] => do scope.list (← compile scope none element) defaults
  | .items parts => do scope.tuple (← compileItems scope parts) defaults
  -- A written shape is exact; the other modes are asked for by name.
  | .shape fields => do scope.shape .exact (← compileFields scope fields) defaults
  | .shorthand text => scope.shorthand text.toList defaults
  -- Numbers, dates and the like mean no schema and are only quoted.
  | .value value => .error (scope.invalid (.value value))
termination_by structural description => description

/-- Builds the schemas of a list of descriptions from the first to the last. -/
def compileItems (scope : Scope) : List Description → Except SchemaError (List Schema)
  | [] => .ok []
  | item :: rest => do
    -- The first defect decides the error, so the rest waits.
    let schema ← compile scope none item
    let schemas ← compileItems scope rest
    return schema :: schemas
termination_by structural items => items

/-- Builds the schemas of declared names from the first to the last. -/
def compileFields (scope : Scope) :
    List (String × Description) → Except SchemaError (List (String × Schema))
  | [] => .ok []
  | (name, item) :: rest => do
    let schema ← compile scope none item
    let schemas ← compileFields scope rest
    return (name, schema) :: schemas
termination_by structural fields => fields

end

/-- Builds a shape of any mode from descriptions. -/
def compileShape (scope : Scope) (mode : ShapeMode) (fields : List (String × Description))
    (defaults : Option Defaults) : Built := do
  scope.shape mode (← scope.compileFields fields) defaults

/-- Builds a list from the description of its elements. -/
def compileList (scope : Scope) (element : Description) (defaults : Option Defaults) : Built := do
  scope.list (← scope.compile none element) defaults

/-- Builds a tuple from the descriptions of its items. -/
def compileTuple (scope : Scope) (items : List Description) (defaults : Option Defaults) :
    Built := do
  scope.tuple (← scope.compileItems items) defaults

/-- Builds a dictionary from the descriptions of its keys and values. -/
def compileDict (scope : Scope) (key item : Description) (defaults : Option Defaults) :
    Built := do
  scope.dict (← scope.compile none key) (← scope.compile none item) defaults

/-- Builds a union from the descriptions of its alternatives, of which there must be one. -/
def compileUnion (scope : Scope) (alternatives : List Description) (defaults : Option Defaults) :
    Built := do
  if alternatives.isEmpty then throw (.invalidSchema "empty union")
  return scope.union (← scope.compileItems alternatives) defaults

/-- Builds an intersection from the descriptions of its parts, of which there must be one. -/
def compileIntersection (scope : Scope) (parts : List Description) (defaults : Option Defaults) :
    Built := do
  if parts.isEmpty then throw (.invalidSchema "empty intersection")
  return scope.intersection (← scope.compileItems parts) defaults

/-- Builds the schema of a description with undefined as an alternative. -/
def compileOptional (scope : Scope) (description : Description) (defaults : Option Defaults) :
    Built := do
  scope.optional (← scope.compile none description) defaults

/-- Builds a list of the values of an enumeration. -/
def compileEnumerations (scope : Scope) (values : List Value) (defaults : Option Defaults) :
    Built :=
  scope.list (enumeration values none) defaults

end Scope

end Conform
