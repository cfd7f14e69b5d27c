import Conform.Value.Basic

/-! How deep arrays and objects are nested in a value. -/

namespace Conform.Value

mutual

/-- How many arrays and objects lie around each other in the value. -/
def nesting : Value → Nat
  | array items => nestingOfAll items + 1
  | object members => nestingOfMembers members + 1
  | _ => 0
termination_by structural value => value

/-- The greatest nesting among values. -/
def nestingOfAll : List Value → Nat
  | [] => 0
  | value :: rest => max value.nesting (nestingOfAll rest)
termination_by structural values => values

/-- The greatest nesting among the values of members. -/
def nestingOfMembers : List (String × Value) → Nat
  | [] => 0
  | (_, value) :: rest => max value.nesting (nestingOfMembers rest)
termination_by structural members => members

end

/-- Values are nested at most so deeply if each of them is. -/
theorem nestingOfAll_le_iff {items : List Value} {bound : Nat} :
    nestingOfAll items ≤ bound ↔ ∀ item ∈ items, item.nesting ≤ bound := by
  -- The greatest of several is within the bound exactly if each of them is.
  induction items with
  | nil => simp [nestingOfAll]
  | cons item rest ih => rw [nestingOfAll, Nat.max_le, ih, List.forall_mem_cons]

/-- Members are nested at most so deeply if each of their values is. -/
theorem nestingOfMembers_le_iff {members : List (String × Value)} {bound : Nat} :
    nestingOfMembers members ≤ bound ↔ ∀ member ∈ members, member.2.nesting ≤ bound := by
  -- The depth of members is the greatest of their depths.
  induction members with
  | nil => simp [nestingOfMembers]
  | cons member rest ih =>
    obtain ⟨name, value⟩ := member
    rw [nestingOfMembers, Nat.max_le, ih, List.forall_mem_cons]

/-- An array is nested at most so deeply if its elements are nested less deeply. -/
theorem nesting_array_le {items : List Value} {bound : Nat} (positive : 0 < bound)
    (each : ∀ item ∈ items, item.nesting < bound) : (array items).nesting ≤ bound := by
  -- The bound leaves room for the level of the array itself.
  have deepest : nestingOfAll items ≤ bound - 1 :=
    nestingOfAll_le_iff.2 fun item held => Nat.le_sub_one_of_lt (each item held)
  rw [nesting]
  omega

/-- An object is nested at most so deeply if what it holds is nested less deeply. -/
theorem nesting_object_le {members : List (String × Value)} {bound : Nat} (positive : 0 < bound)
    (each : ∀ member ∈ members, member.2.nesting < bound) : (object members).nesting ≤ bound := by
  -- The object adds one level to the deepest of its members.
  have deepest : nestingOfMembers members ≤ bound - 1 :=
    nestingOfMembers_le_iff.2 fun member held => Nat.le_sub_one_of_lt (each member held)
  rw [nesting]
  omega

/-- An array is nested. -/
theorem nesting_array_pos (items : List Value) : 0 < (array items).nesting := by
  -- The array is a level itself.
  rw [nesting]
  exact Nat.succ_pos _

/-- An object is nested. -/
theorem nesting_object_pos (members : List (String × Value)) : 0 < (object members).nesting := by
  -- The object is a level itself.
  rw [nesting]
  exact Nat.succ_pos _

/-- An element of an array is nested less deeply than the array. -/
theorem nesting_lt_of_mem_array {items : List Value} {item : Value} (held : item ∈ items) :
    item.nesting < (array items).nesting := by
  -- The element is nested as deeply as the deepest of them at most.
  rw [nesting, Nat.lt_succ_iff]
  exact nestingOfAll_le_iff.1 (Nat.le_refl _) item held

/-- What an object holds is nested less deeply than the object. -/
theorem nesting_lt_of_mem_object {members : List (String × Value)} {name : String} {value : Value}
    (held : (name, value) ∈ members) : value.nesting < (object members).nesting := by
  -- The member is nested as deeply as the deepest of them at most.
  rw [nesting, Nat.lt_succ_iff]
  exact nestingOfMembers_le_iff.1 (Nat.le_refl _) (name, value) held

end Conform.Value
