import Conform.Members
import Conform.Number.Double

/-! JSON documents. -/

namespace Conform

/-- A document. Integers are those that fit sixty-four bits with or without sign, all other numbers
are finite. -/
inductive Json where
  | null
  | bool (truth : Bool)
  | integer (n : Int)
  | float (n : Double)
  | string (text : String)
  | array (items : List Json)
  | object (members : List (String × Json))

instance : Inhabited Json := ⟨.null⟩

namespace Json

mutual

/-- Merges repeated member names throughout: the first place and the last value are kept. -/
def settle : Json → Json
  | array items => array (settleItems items)
  -- The members are settled before they are merged, so a dropped one is settled for nothing.
  | object members => object (Members.ofPairs (settleMembers members))
  | document => document
termination_by structural document => document

/-- Settles every element. -/
def settleItems : List Json → List Json
  | [] => []
  | item :: rest => item.settle :: settleItems rest
termination_by structural items => items

/-- Settles every member on its own. -/
def settleMembers : List (String × Json) → List (String × Json)
  | [] => []
  | (name, value) :: rest => (name, value.settle) :: settleMembers rest
termination_by structural members => members

end

end Json

end Conform
