import Conform.Proofs.Members
import Conform.Value.Basic

/-! Well-formedness passes from a container to everything that is found in it. -/

namespace Conform.Value

/-- A list of values is well-formed when each of them is. -/
theorem allWellFormed_iff (items : List Value) :
    AllWellFormed items ↔ ∀ item ∈ items, item.WellFormed := by
  -- The definition runs down the list just as membership does.
  induction items with
  | nil => simp [AllWellFormed]
  | cons item rest ih => simp [AllWellFormed, ih]

/-- Members are well-formed when each of their values is. -/
theorem membersWellFormed_iff (members : List (String × Value)) :
    MembersWellFormed members ↔ ∀ name value, (name, value) ∈ members → value.WellFormed := by
  induction members with
  | nil => simp [MembersWellFormed]
  | cons head rest ih =>
    obtain ⟨held, old⟩ := head
    rw [MembersWellFormed, ih]
    constructor
    · intro all name value found
      obtain ⟨first, others⟩ := all
      -- A member is the first one or one of the rest.
      rcases List.mem_cons.1 found with same | later
      · cases same
        exact first
      · exact others name value later
    · intro each
      exact ⟨each held old (by simp), fun name value found => each name value (by simp [found])⟩

/-- An array is well-formed when its elements are. -/
@[simp] theorem wellFormed_array (items : List Value) :
    (array items).WellFormed ↔ ∀ item ∈ items, item.WellFormed := by
  rw [WellFormed, allWellFormed_iff]

/-- An object is well-formed when its names are distinct and its values are well-formed. -/
@[simp] theorem wellFormed_object (members : Members Value) :
    (object members).WellFormed ↔
      members.names.Nodup ∧ ∀ name value, (name, value) ∈ members → value.WellFormed := by
  rw [WellFormed, membersWellFormed_iff]

/-- What is undefined is well-formed. -/
@[simp] theorem wellFormed_undefined : undefined.WellFormed :=
  trivial

/-- A text is well-formed. -/
@[simp] theorem wellFormed_string (text : String) : (string text).WellFormed :=
  trivial

/-- A name of a well-formed object reads as a well-formed value, also where nothing is held. -/
theorem WellFormed.member {members : Members Value} (wellFormed : (object members).WellFormed)
    (name : String) : ((members.get? name).getD undefined).WellFormed := by
  -- Nothing is read as undefined, and anything else is one of the values.
  cases found : members.get? name with
  | none => simp
  | some value =>
    exact ((wellFormed_object members).1 wellFormed).2 name value (Members.mem_of_get? found)

/-- A place of a well-formed array reads as a well-formed value, also past its end. -/
theorem WellFormed.element {items : List Value} (wellFormed : (array items).WellFormed)
    (place : Nat) : ((items[place]?).getD undefined).WellFormed := by
  -- Past the end there is undefined, and anything else is one of the elements.
  cases found : items[place]? with
  | none => simp
  | some value =>
    exact (wellFormed_array items).1 wellFormed value (List.mem_of_getElem? found)

end Conform.Value
