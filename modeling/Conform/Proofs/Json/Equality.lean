import Conform.Json.Basic

/-! Documents can be compared, so that what reading comes to can be computed. -/

namespace Conform.Json

mutual

/-- Whether two documents are the same. -/
def same : Json → Json → Bool
  | null, null => true
  | bool truth, bool other => truth == other
  | integer n, integer other => n == other
  | float n, float other => n == other
  | string text, string other => text == other
  | array items, array others => sameItems items others
  | object members, object others => sameMembers members others
  | _, _ => false
termination_by structural document => document

/-- Whether two lists hold the same documents. -/
def sameItems : List Json → List Json → Bool
  | [], [] => true
  | item :: rest, other :: others => item.same other && sameItems rest others
  | _, _ => false
termination_by structural items => items

/-- Whether two objects hold the same documents under the same names. -/
def sameMembers : List (String × Json) → List (String × Json) → Bool
  | [], [] => true
  | (name, item) :: rest, (key, other) :: others =>
    name == key && item.same other && sameMembers rest others
  | _, _ => false
termination_by structural members => members

end

mutual

/-- Documents are the same if they are equal. -/
theorem same_iff : ∀ {document other : Json}, document.same other = true ↔ document = other
  | null, other | bool truth, other | integer n, other | float n, other | string text, other => by
    -- The comparison goes down both documents at once.
    cases other <;> simp [same]
  | array items, other => by
    cases other <;> simp [same, sameItems_iff]
  | object members, other => by
    cases other <;> simp [same, sameMembers_iff]

/-- Elements are the same if the lists are equal. -/
theorem sameItems_iff : ∀ {items others : List Json}, sameItems items others = true ↔ items = others
  | [], others => by cases others <;> simp [sameItems]
  | item :: rest, others => by
    cases others <;> simp [sameItems, same_iff, sameItems_iff]

/-- Members are the same if the objects are equal. -/
theorem sameMembers_iff : ∀ {members others : List (String × Json)},
    sameMembers members others = true ↔ members = others
  | [], others => by cases others <;> simp [sameMembers]
  | (name, item) :: rest, others => by
    cases others <;> simp [sameMembers, same_iff, sameMembers_iff, Prod.ext_iff]

end

instance : DecidableEq Json := fun _ _ => decidable_of_iff _ same_iff

end Conform.Json
