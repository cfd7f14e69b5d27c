import Conform.Schema.Node
import Conform.Value.Json
import Conform.Value.Text

/-! Descriptions declare schemas before any name in them is looked up. -/

namespace Conform

/-- A declaration of a schema. A finished struct brings along the description that it came from. -/
inductive Description where
  | shorthand (text : String)
  | items (items : List Description)
  | shape (fields : List (String × Description))
  | predicate (predicate : Predicate)
  | node (schema : Schema)
  | struct (source : Description) (schema : Schema)
  | value (value : Value)

namespace Description

mutual

/-- The text of a description where it is quoted; none if a date without text is quoted in it. -/
def toText? (links : Links) : Description → Option String
  | shorthand text => some text
  | items parts => (itemTexts? links parts).map (String.intercalate ",")
  -- Objects are quoted without a look inside, so a date in one does no harm.
  | shape _ => some "[object Object]"
  | predicate _ => some "<function>"
  | node schema => some (schema.type links)
  | struct _ schema => some (schema.type links)
  | value v => v.toText?
termination_by structural description => description

/-- The texts of the items. -/
def itemTexts? (links : Links) : List Description → Option (List String)
  | [] => some []
  | item :: rest => do
    let text ← item.toText? links
    let texts ← itemTexts? links rest
    return text :: texts
termination_by structural items => items

end

mutual

/-- The description that a document spells out: texts are shorthands, arrays are items, objects are
shapes, and anything else is a value that means no schema. -/
def ofJson : Json → Description
  | .string text => shorthand text
  | .array parts => items (itemsOfJson parts)
  | .object members => shape (fieldsOfJson members)
  | .null => value .null
  | .bool truth => value (.bool truth)
  -- Numbers keep the value that the document gives them.
  | .integer n => value (.ofInt n)
  | .float n => value (.number n)
termination_by structural document => document

/-- The descriptions of elements. -/
def itemsOfJson : List Json → List Description
  | [] => []
  | item :: rest => ofJson item :: itemsOfJson rest
termination_by structural items => items

/-- The descriptions of members. -/
def fieldsOfJson : List (String × Json) → List (String × Description)
  | [] => []
  | (name, item) :: rest => (name, ofJson item) :: fieldsOfJson rest
termination_by structural members => members

end

end Description

end Conform
