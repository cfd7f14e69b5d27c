import Conform.Json.Writer
import Conform.Value.Tag

/-! Values as JSON documents, and documents as values. -/

namespace Conform

/-- A number as a document: an integer up to the safe limit is exact, and what is not finite is null. -/
def Double.toJson (n : Double) : Json :=
  if !n.isFinite then .null
  else
    match n.toInt? with
    -- Beyond the safe limit neighbouring integers share a number, so none of them is named.
    | some whole => if whole.natAbs ≤ Double.safeLimit then .integer whole else .float n
    | none => .float n

/-- Documents keyed by their places. -/
def Json.indexed (items : List Json) : Json :=
  .object (items.mapIdx fun place item => (String.ofList (numeral place), item))

namespace Value

mutual

/-- The document that a value renders as. Undefined, functions and symbols have none; where one is
needed in a list it is null, and a member without one is left out. What has no members of its own
renders as an empty object. -/
def toJson? : Value → Option Json
  | undefined => none
  | function _ => none
  | symbol _ => none
  | null => some .null
  | bool truth => some (.bool truth)
  | number n => some n.toJson
  | string text => some (.string text)
  | array items => some (.array (itemsToJson items))
  | object members => some (.object (membersToJson members))
  | arguments items => some (Json.indexed (itemsToJson items))
  | date (some instant) => some (.string instant.toIsoText)
  -- A date without an instant is null, as a number that is not finite is.
  | date none => some .null
  | typedArray elements => some (Json.indexed (elements.numbers.map Double.toJson))
  | buffer bytes =>
    some (.object [("type", .string "Buffer"),
      ("data", .array (bytes.map fun byte => .integer byte.toNat))])
  -- What these hold is not their members, so nothing of it is shown.
  | regexp _ _ => some (.object [])
  | error _ _ => some (.object [])
  | map _ => some (.object [])
  | set _ => some (.object [])
  | host _ => some (.object [])
termination_by structural value => value

/-- The documents of list elements. -/
def itemsToJson : List Value → List Json
  | [] => []
  -- A place must not be lost, or those after it would move.
  | item :: rest => item.toJson?.getD .null :: itemsToJson rest
termination_by structural items => items

/-- The documents of those members that have one. -/
def membersToJson : List (String × Value) → List (String × Json)
  | [] => []
  | (name, value) :: rest =>
    match value.toJson? with
    | some document => (name, document) :: membersToJson rest
    | none => membersToJson rest
termination_by structural members => members

end

/-- The compact text of a value's document, or `undefined` without one. -/
def stringify (value : Value) : String :=
  match value.toJson? with
  | some document => document.toText
  | none => "undefined"

/-- The text of a value where every value needs one: a value without a document is written as null. -/
def toJsonText (value : Value) : String :=
  (value.toJson?.getD .null).toText

/-- Why a value has no document. -/
def notRepresentable (value : Value) : String :=
  "a value of type `" ++ value.tag.name ++ "` has no JSON representation"

mutual

/-- The value that a document describes. -/
def ofJson : Json → Value
  | .null => null
  | .bool truth => bool truth
  | .integer n => number (Double.ofInt n)
  | .float n => number n
  | .string text => string text
  | .array items => array (itemsOfJson items)
  | .object members => object (membersOfJson members)
termination_by structural document => document

/-- The values of elements. -/
def itemsOfJson : List Json → List Value
  | [] => []
  | item :: rest => ofJson item :: itemsOfJson rest
termination_by structural items => items

/-- The values of members. -/
def membersOfJson : List (String × Json) → List (String × Value)
  | [] => []
  | (name, item) :: rest => (name, ofJson item) :: membersOfJson rest
termination_by structural members => members

end

end Value

end Conform
