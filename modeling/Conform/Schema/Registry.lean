import Conform.Schema.Verdict
import Conform.Value.Tag

/-! A registry knows scalar types by name. -/

namespace Conform

/-- Predicates under distinct names. -/
structure Registry where
  entries : Members Predicate
  distinct : entries.names.Nodup

namespace Registry

/-- The registry without any type. -/
def empty : Registry where
  entries := []
  distinct := List.nodup_nil

/-- Adds a type or replaces the one of that name. -/
def register (registry : Registry) (name : String) (predicate : Predicate) : Registry where
  entries := Members.insert name predicate registry.entries
  distinct := Members.nodup_insert name predicate registry.distinct

/-- Adds types one after another. -/
def registerAll (registry : Registry) (types : List (String × Predicate)) : Registry :=
  -- Later types replace earlier ones of the same name, which keep their place.
  types.foldl (fun held type => held.register type.1 type.2) registry

/-- Adds every type of another registry, replacing those of the same names. -/
def extend (registry other : Registry) : Registry :=
  registry.registerAll other.entries

/-- The registry of a sequence of types. -/
def ofTypes (types : List (String × Predicate)) : Registry :=
  empty.registerAll types

/-- The predicate of a name. -/
def get? (registry : Registry) (name : String) : Option Predicate :=
  registry.entries.get? name

/-- Whether a name is registered. -/
def contains (registry : Registry) (name : String) : Bool :=
  registry.entries.contains name

/-- The number of registered names. -/
def size (registry : Registry) : Nat :=
  registry.entries.length

/-- The bytes by which names are put in order. -/
def sortKey (name : String) : List UInt8 :=
  name.toUTF8.data.toList

/-- The registered names in the order of their bytes. -/
def names (registry : Registry) : List String :=
  -- The order is the one of encoded texts, not the order of insertion.
  registry.entries.names.mergeSort fun a b => decide (sortKey a ≤ sortKey b)

/-- The tags whose names are registered from the start. -/
def builtinTags : List TypeTag :=
  -- Dates are missing here: their type asks for an instant as well.
  [.arguments, .array, .boolean, .buffer, .error, .float32Array, .float64Array, .function,
    .generatorFunction, .int16Array, .int32Array, .int8Array, .map, .null, .number, .object,
    .promise, .regexp, .set, .string, .symbol, .uint16Array, .uint32Array, .uint8Array,
    .uint8ClampedArray, .undefined, .weakMap, .weakSet]

/-- Accepts everything but undefined. -/
def anything : Predicate := fun value _ =>
  .ofBool !value.isUndefined

/-- Accepts the values of one tag. -/
def hasTag (tag : TypeTag) : Predicate := fun value _ =>
  .ofBool (value.tag == tag)

/-- Accepts dates that have an instant. -/
def validDate : Predicate := fun value _ =>
  match value with
  -- A host object that claims the tag of dates has no instant to show.
  | .date (some _) => .pass
  | _ => .fail

/-- The types that every factory starts from. -/
def builtin : Registry :=
  -- The order matters to no lookup, since the names are distinct.
  ofTypes ([("any", anything)] ++ builtinTags.map (fun tag => (tag.name, hasTag tag)) ++
    [("date", validDate)])

end Registry

end Conform
