import Conform.Json.Writer

/-! A path leads from a container to one of the values inside it. -/

namespace Conform

/-- One step into a container. -/
inductive Segment where
  | index (place : Nat)
  | key (name : String)
deriving DecidableEq

/-- The steps from the outermost container inwards. -/
abbrev Path := List Segment

namespace Segment

/-- The text of a step. -/
def toText : Segment → String
  | index place => String.ofList (numeral place)
  | key name => name

/-- The step that a document describes: a natural number of sixty-four bits or a text. -/
def ofJson? : Json → Option Segment
  | .integer n => if 0 ≤ n then some (index n.toNat) else none
  | .string name => some (key name)
  | _ => none

/-- The document of a step. -/
def toJson : Segment → Json
  | index place => .integer place
  | key name => .string name

end Segment

namespace Path

/-- The texts of the steps with dots between. -/
def join (path : Path) : String :=
  String.intercalate "." (path.map Segment.toText)

/-- The path that a document describes. -/
def ofJson? : Json → Option Path
  | .array items => items.mapM Segment.ofJson?
  | _ => none

/-- The document of a path. -/
def toJson (path : Path) : Json :=
  .array (path.map Segment.toJson)

end Path

end Conform
