import Conform.Schema.Compile
import Conform.Schema.Validate

/-! A factory compiles structs against one registry. -/

namespace Conform

/-- A factory of structs: its registered types, and the default for what is made next. -/
structure Factory where
  registry : Registry
  defaults : Option Defaults

/-- A finished schema together with what it came from. -/
structure Struct where
  source : Description
  defaults : Option Defaults
  registry : Registry
  schema : Schema

namespace Struct

/-- The struct as part of another description. -/
def toDescription (struct : Struct) : Description :=
  .struct struct.source struct.schema

/-- The kind of the struct. -/
def kind (links : Links) (struct : Struct) : Kind :=
  struct.schema.kind links

/-- The type description of the struct. -/
def type (links : Links) (struct : Struct) : String :=
  struct.schema.type links

/-- Checks a value. -/
def validate (links : Links) (struct : Struct) (value : Value) : Run Outcome :=
  struct.schema.validateRoot links value

/-- Whether a value is accepted. -/
def accepts (links : Links) (struct : Struct) (value : Value) : Run Bool := do
  match ← struct.validate links value with
  | .ok _ => return true
  | .error _ => return false

end Struct

namespace Factory

/-- The factory of the built-in types and the given ones, which may replace them. -/
def ofTypes (types : Registry) : Factory :=
  ⟨Registry.builtin.extend types, none⟩

/-- The factory of the built-in types. -/
def builtin : Factory :=
  ofTypes Registry.empty

/-- The same factory with a default for what is made next. -/
def withDefaults (factory : Factory) (defaults : Defaults) : Factory :=
  { factory with defaults := some defaults }

/-- What the factory builds in. -/
def scope (factory : Factory) (links : Links) : Scope :=
  ⟨factory.registry, links⟩

/-- A struct of a node, which is its own source. -/
def wrap (factory : Factory) (schema : Schema) : Struct :=
  -- What was built by hand is its own description.
  ⟨.node schema, factory.defaults, factory.registry, schema⟩

/-- Compiles a description with a given default. A struct is compiled again from its source, so that
its names are looked up in this factory. -/
def compileWith (factory : Factory) (links : Links) (description : Description)
    (defaults : Option Defaults) : Except SchemaError Struct := do
  -- The finished schema of a struct is dropped together with its default.
  let source :=
    match description with
    | .struct source _ => source
    | other => other
  return ⟨source, defaults, factory.registry, ← (factory.scope links).compile defaults source⟩

/-- Compiles a description. -/
def compile (factory : Factory) (links : Links) (description : Description) :
    Except SchemaError Struct :=
  factory.compileWith links description factory.defaults

/-- The combinators that take a description or other plain argument. -/
inductive Recipe where
  | any
  | scalar (name : String)
  | function (predicate : Predicate)
  | shape (mode : ShapeMode) (fields : Description)
  | list (items : Description)
  | tuple (items : Description)
  | dict (items : Description)
  | enumeration (values : List Value)
  | enumerations (values : List Value)
  | union (items : Description)
  | intersection (items : Description)
  | optional (description : Description)
  | literal (expected : Value)
  | instanceOf (payload : String)
  | dynamic (select : Value → Option Value → Schema)

/-- Builds the node of a recipe. A description that has not the form the recipe asks for is quoted as
invalid. -/
def build (scope : Scope) (defaults : Option Defaults) : Recipe → Built
  | .any => scope.scalar "any" defaults
  | .scalar name => scope.scalar name defaults
  | .function predicate => .ok (Scope.custom predicate defaults)
  | .shape mode (.shape fields) => scope.compileShape mode fields defaults
  -- The form is looked at before any part of it is compiled.
  | .shape _ other => .error (scope.invalid other)
  | .list (.items [element]) => scope.compileList element defaults
  | .list other => .error (scope.invalid other)
  | .tuple (.items items) => scope.compileTuple items defaults
  | .tuple other => .error (scope.invalid other)
  | .dict (.items [key, item]) => scope.compileDict key item defaults
  | .dict other => .error (scope.invalid other)
  | .enumeration values => .ok (Scope.enumeration values defaults)
  | .enumerations values => scope.compileEnumerations values defaults
  | .union (.items items) => scope.compileUnion items defaults
  | .union other => .error (scope.invalid other)
  | .intersection (.items items) => scope.compileIntersection items defaults
  | .intersection other => .error (scope.invalid other)
  | .optional description => scope.compileOptional description defaults
  | .literal expected => .ok (Scope.literal expected defaults)
  | .instanceOf payload => .ok (Scope.instanceOf payload defaults)
  | .dynamic select => .ok (Scope.dynamic select defaults)

/-- Makes the struct of a recipe. -/
def make (factory : Factory) (links : Links) (recipe : Recipe) : Except SchemaError Struct := do
  return factory.wrap (← build (factory.scope links) factory.defaults recipe)

/-- Makes a struct that stands for whatever a reference leads to; it takes no default. -/
def lazy (factory : Factory) (reference : Nat) : Struct :=
  -- The target may be unknown when the struct is made, so nothing of it is asked here.
  ⟨.node (.lazy reference), none, factory.registry, .lazy reference⟩

end Factory

end Conform
