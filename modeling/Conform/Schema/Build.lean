import Conform.Schema.Error
import Conform.Schema.Node
import Conform.Schema.Registry
import Conform.Value.Json

/-! Nodes are built from finished children; their types are written from those of the children. -/

namespace Conform

/-- What building looks things up in: the registered types and the references known so far. -/
structure Scope where
  registry : Registry
  links : Links

/-- A schema, or what is wrong with its description. -/
abbrev Built := Except SchemaError Schema

namespace Scope

/-- The predicate of a registered name. -/
def predicate (scope : Scope) (name : String) : Except SchemaError Predicate :=
  match scope.registry.get? name with
  | some predicate => .ok predicate
  | none => .error (.invalidType name)

/-- The types of schemas with a separator between. -/
def joinTypes (scope : Scope) (separator : String) (schemas : List Schema) : String :=
  String.intercalate separator (schemas.map (Schema.type scope.links))

/-- A registered type. -/
def scalar (scope : Scope) (name : String) (defaults : Option Defaults) : Built := do
  return .scalar ⟨name, defaults⟩ (← scope.predicate name)

/-- A predicate of one's own. -/
def custom (predicate : Predicate) (defaults : Option Defaults) : Schema :=
  .custom ⟨"<function>", defaults⟩ predicate

/-- The type of a shape: its names between braces, and dots where names may be absent. -/
def shapeType (mode : ShapeMode) (names : List String) : String :=
  let listed := String.intercalate "," names
  match mode with
  -- Only a sparse shape lets names be absent that it declares.
  | .sparse => "\x7b" ++ listed ++ ",...\x7d"
  | _ => "\x7b" ++ listed ++ "\x7d"

/-- An object with declared names. -/
def shape (scope : Scope) (mode : ShapeMode) (fields : Members Schema)
    (defaults : Option Defaults) : Built := do
  -- The guard is what the scope calls an object, which need not be the builtin type.
  return .shape ⟨shapeType mode fields.names, defaults⟩ mode (← scope.predicate "object") fields

/-- An array with elements of one schema. -/
def list (scope : Scope) (element : Schema) (defaults : Option Defaults) : Built := do
  return .list ⟨"[" ++ element.type scope.links ++ "]", defaults⟩ (← scope.predicate "array") element

/-- An array with a schema for each place. -/
def tuple (scope : Scope) (items : List Schema) (defaults : Option Defaults) : Built := do
  return .tuple ⟨"[" ++ scope.joinTypes "," items ++ "]", defaults⟩ (← scope.predicate "array") items

/-- An object with keys of one schema and values of another. -/
def dict (scope : Scope) (key item : Schema) (defaults : Option Defaults) : Built := do
  let type := "dict<" ++ key.type scope.links ++ "," ++ item.type scope.links ++ ">"
  return .dict ⟨type, defaults⟩ (← scope.predicate "object") key item

/-- One of a number of values. -/
def enumeration (values : List Value) (defaults : Option Defaults) : Schema :=
  .enumeration ⟨String.intercalate " | " (values.map Value.stringify), defaults⟩ values

/-- The first alternative that accepts. -/
def union (scope : Scope) (alternatives : List Schema) (defaults : Option Defaults) : Schema :=
  .union ⟨scope.joinTypes " | " alternatives, defaults⟩ alternatives

/-- All parts in turn. -/
def intersection (scope : Scope) (parts : List Schema) (defaults : Option Defaults) : Schema :=
  .intersection ⟨scope.joinTypes " & " parts, defaults⟩ parts

/-- A schema or undefined. -/
def optional (scope : Scope) (schema : Schema) (defaults : Option Defaults) : Built := do
  -- Undefined comes last, so a schema that accepts it has the first word.
  return scope.union [schema, ← scope.scalar "undefined" none] defaults

/-- Exactly one value. -/
def literal (expected : Value) (defaults : Option Defaults) : Schema :=
  .literal ⟨"literal: " ++ expected.stringify, defaults⟩ expected

/-- A type name without the module path in front: what stands after the last double colon before the
first parameter. -/
def shortTypeName (name : String) : String :=
  String.ofList (afterLastColons name.toList)
where
  /-- The text after the last double colon that no angle bracket precedes, or the whole text. -/
  afterLastColons : List Char → List Char
    | ':' :: ':' :: rest => if later rest then afterLastColons rest else rest
    | '<' :: rest => '<' :: rest
    | c :: rest => if later rest then afterLastColons rest else c :: rest
    | [] => []
  /-- Whether a double colon stands before the first angle bracket. -/
  later : List Char → Bool
    | ':' :: ':' :: _ => true
    | '<' :: _ => false
    | _ :: rest => later rest
    | [] => false

/-- A host object that carries a given type. -/
def instanceOf (payload : String) (defaults : Option Defaults) : Schema :=
  .instanceOf ⟨"instance<" ++ shortTypeName payload ++ ">", defaults⟩ payload

/-- A schema chosen for each value. -/
def dynamic (select : Value → Option Value → Schema) (defaults : Option Defaults) : Schema :=
  -- What will be selected is not known yet, so the type cannot name it.
  .dynamic ⟨"dynamic...", defaults⟩ select

end Scope

end Conform
