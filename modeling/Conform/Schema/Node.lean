import Conform.Schema.Defaults
import Conform.Schema.Verdict

/-! Schemas are trees of checks; recursion goes through numbered references. -/

namespace Conform

/-- The sort of check that a node performs. -/
inductive Kind where
  | scalar
  | function
  | object
  | partialObject
  | interface
  | list
  | tuple
  | dict
  | enumeration
  | union
  | intersection
  | literal
  | instanceOf
  | lazy
  | dynamic
deriving DecidableEq

namespace Kind

/-- The name of a kind. -/
def name : Kind → String
  | scalar => "scalar"
  | function => "function"
  | object => "object"
  | partialObject => "partial"
  | interface => "interface"
  | list => "list"
  | tuple => "tuple"
  | dict => "dict"
  | enumeration => "enum"
  | union => "union"
  | intersection => "intersection"
  | literal => "literal"
  | instanceOf => "instance"
  | lazy => "lazy"
  | dynamic => "dynamic"

end Kind

/-- How a shape treats the names of an object. -/
inductive ShapeMode where
  /-- Every declared name is checked, and others are refused. -/
  | exact
  /-- Declared names may be absent, and others are refused. -/
  | sparse
  /-- Declared names are checked, and others pass through untouched. -/
  | extensible
deriving DecidableEq

/-- What every node but a reference carries: its type description and its default. -/
structure Label where
  type : String
  defaults : Option Defaults

/-- A schema. Containers hold the predicate that values must pass before they are looked into. -/
inductive Schema where
  | scalar (label : Label) (predicate : Predicate)
  | custom (label : Label) (predicate : Predicate)
  | shape (label : Label) (mode : ShapeMode) (guard : Predicate) (fields : List (String × Schema))
  | list (label : Label) (guard : Predicate) (element : Schema)
  | tuple (label : Label) (guard : Predicate) (items : List Schema)
  | dict (label : Label) (guard : Predicate) (key item : Schema)
  | enumeration (label : Label) (values : List Value)
  | union (label : Label) (alternatives : List Schema)
  | intersection (label : Label) (parts : List Schema)
  | literal (label : Label) (expected : Value)
  | instanceOf (label : Label) (payload : String)
  | lazy (reference : Nat)
  | dynamic (label : Label) (select : Value → Option Value → Schema)

/-- The schemas that references have turned out to stand for. -/
abbrev Links := List (Nat × Schema)

namespace Links

/-- The schema that a reference stands for, once that is known. -/
def get? : Links → Nat → Option Schema
  | [], _ => none
  | (known, target) :: rest, reference =>
    if reference = known then some target else get? rest reference

end Links

namespace ShapeMode

/-- The kind of a shape. -/
def kind : ShapeMode → Kind
  | exact => .object
  | sparse => .partialObject
  | extensible => .interface

end ShapeMode

namespace Schema

/-- The label of a node; a reference has none of its own. -/
def label : Schema → Label
  | scalar label _ => label
  | custom label _ => label
  | shape label _ _ _ => label
  | list label _ _ => label
  | tuple label _ _ => label
  | dict label _ _ _ => label
  | enumeration label _ => label
  | union label _ => label
  | intersection label _ => label
  | literal label _ => label
  | instanceOf label _ => label
  -- A reference takes no default: its target has one of its own.
  | lazy _ => ⟨"lazy...", none⟩
  | dynamic label _ => label

/-- The default of a node. -/
def defaults (schema : Schema) : Option Defaults :=
  schema.label.defaults

/-- The kind of the node itself. -/
def ownKind : Schema → Kind
  | scalar _ _ => .scalar
  | custom _ _ => .function
  | shape _ mode _ _ => mode.kind
  | list _ _ _ => .list
  | tuple _ _ _ => .tuple
  | dict _ _ _ _ => .dict
  | enumeration _ _ => .enumeration
  | union _ _ => .union
  | intersection _ _ => .intersection
  | literal _ _ => .literal
  | instanceOf _ _ => .instanceOf
  | lazy _ => .lazy
  | dynamic _ _ => .dynamic

mutual

/-- How many nodes lie on the longest way down from a node. A reference and a schema that is yet to be
selected count as one node. -/
def height : Schema → Nat
  | shape _ _ _ fields => heightOfFields fields + 1
  | list _ _ element => element.height + 1
  | tuple _ _ items => heightOfAll items + 1
  | dict _ _ key item => max key.height item.height + 1
  | union _ alternatives => heightOfAll alternatives + 1
  | intersection _ parts => heightOfAll parts + 1
  | scalar _ _ => 1
  | custom _ _ => 1
  | enumeration _ _ => 1
  | literal _ _ => 1
  | instanceOf _ _ => 1
  -- What these two stand for is no part of the tree, and may even lead back to it.
  | lazy _ => 1
  | dynamic _ _ => 1
termination_by structural schema => schema

/-- The greatest height among schemas. -/
def heightOfAll : List Schema → Nat
  | [] => 0
  | schema :: rest => max schema.height (heightOfAll rest)
termination_by structural schemas => schemas

/-- The greatest height among the schemas of fields. -/
def heightOfFields : List (String × Schema) → Nat
  | [] => 0
  | (_, schema) :: rest => max schema.height (heightOfFields rest)
termination_by structural fields => fields

end

/-- Follows references in at most so many steps. -/
def follow (links : Links) : Nat → Schema → Schema
  | steps + 1, lazy reference =>
    match links.get? reference with
    | some target => follow links steps target
    -- A reference that nothing is known of stands for itself.
    | none => lazy reference
  -- The steps have run out, or the node is its own.
  | _, schema => schema

/-- The node that a reference leads to as far as it is known. -/
def resolved (links : Links) (schema : Schema) : Schema :=
  -- A chain without repetition has no more steps than there are links.
  schema.follow links links.length

/-- The kind of a node; a known reference has the kind of its target. -/
def kind (links : Links) (schema : Schema) : Kind :=
  (schema.resolved links).ownKind

/-- The type description of a node; a known reference has the one of its target. -/
def type (links : Links) (schema : Schema) : String :=
  (schema.resolved links).label.type

end Schema

end Conform
