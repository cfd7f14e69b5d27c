import Conform.Proofs.Value.WellFormed
import Conform.Value.Json

/-! Plain data: what documents can describe, up to which numbers may occur. -/

namespace Conform.Value

/-- Values that are null, truth values, texts, numbers of a kind, and arrays and objects of these,
where objects have distinct names. -/
inductive Data (kind : Double → Prop) : Value → Prop
  | null : Data kind null
  | bool (truth : Bool) : Data kind (bool truth)
  | number {n : Double} (allowed : kind n) : Data kind (number n)
  | string (text : String) : Data kind (string text)
  | array {items : List Value} (each : ∀ item ∈ items, Data kind item) : Data kind (array items)
  | object {members : Members Value} (distinct : members.names.Nodup)
      (each : ∀ name value, (name, value) ∈ members → Data kind value) : Data kind (object members)

/-- The elements of a document are described one by one. -/
theorem itemsOfJson_eq_map (items : List Json) : itemsOfJson items = items.map ofJson := by
  -- The elements are gone through from the front.
  induction items with
  | nil => rfl
  | cons item rest ih => rw [itemsOfJson, ih, List.map_cons]

/-- The members of a document are described one by one, under their names. -/
theorem membersOfJson_eq_map (members : Members Json) :
    membersOfJson members = members.map fun member => (member.1, ofJson member.2) := by
  -- The members are gone through from the front.
  induction members with
  | nil => rfl
  | cons member rest ih =>
    obtain ⟨name, item⟩ := member
    rw [membersOfJson, ih, List.map_cons]

/-- A value has the names of its document. -/
theorem names_membersOfJson (members : Members Json) :
    Members.names (membersOfJson members) = members.names := by
  rw [membersOfJson_eq_map, Members.names_map]

end Conform.Value
