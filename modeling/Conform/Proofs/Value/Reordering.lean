import Conform.Proofs.Traversal
import Conform.Proofs.Value.WellFormed

/-! Reordering: a value as it was, except that the members of objects may stand in another order. -/

namespace Conform.Value

/-- A value and what it may be reordered to. An object keeps its names, in whatever order, and an
array keeps its elements in place; whatever is no container stays as it is. -/
inductive Reordered : Value → Value → Prop where
  | same (value : Value) : Reordered value value
  -- With distinct names on one side, the permutation makes them distinct on the other.
  | object {members others : Members Value} (distinct : members.names.Nodup)
      (names : members.names.Perm others.names)
      (each : ∀ name old new, members.get? name = some old → others.get? name = some new →
        Reordered old new) :
      Reordered (.object members) (.object others)
  | array {items others : List Value} (length : others.length = items.length)
      (each : ∀ (place : Nat) old new, items[place]? = some old → others[place]? = some new →
        Reordered old new) :
      Reordered (.array items) (.array others)

namespace Reordered

variable {value other : Value} {members others : Members Value}

/-- Being undefined does not depend on the order of members. -/
theorem isUndefined_eq (reordered : value.Reordered other) :
    value.isUndefined = other.isUndefined := by
  cases reordered <;> rfl

/-- What is undefined on both sides, or there on both sides and reordered, reads alike. -/
theorem getD {old new : Option Value} (reordered : Option.Rel Reordered old new) :
    (old.getD .undefined).Reordered (new.getD .undefined) := by
  -- Where nothing stands, both are undefined.
  cases reordered with
  | some held => exact held
  | none => exact .same .undefined

/-- What an object is reordered to is an object that holds the same under each name, up to order. -/
theorem of_object (reordered : Reordered (.object members) other) :
    ∃ others : Members Value, other = .object others ∧ members.names.Perm others.names ∧
      ∀ name, Option.Rel Reordered (members.get? name) (others.get? name) := by
  -- The object is the same, or its members are reordered name by name.
  cases reordered with
  | same =>
    refine ⟨members, rfl, .refl _, fun name => ?_⟩
    cases members.get? name with
    | none => exact .none
    | some held => exact .some (.same held)
  | @object _ others _ names each => exact ⟨others, rfl, names, Members.rel_get? names each⟩

/-- Objects of distinct names that hold the same under each name, up to order, are reordered. -/
theorem of_get? (distinct : members.names.Nodup) (distinctToo : others.names.Nodup)
    (each : ∀ name, Option.Rel Reordered (members.get? name) (others.get? name)) :
    Reordered (.object members) (.object others) := by
  -- What can be read under the same names determines the names.
  have names := Members.perm_names_of_rel distinct distinctToo each
  refine .object distinct names fun name old new held given => ?_
  have held := held ▸ given ▸ each name
  cases held
  assumption

/-- What an array is reordered to is an array that holds the same at each place, up to order. -/
theorem of_array {items : List Value} (reordered : Reordered (.array items) other) :
    ∃ others : List Value, other = .array others ∧ others.length = items.length ∧
      ∀ place : Nat, Option.Rel Reordered items[place]? others[place]? := by
  -- The array is the same, or its elements are reordered place by place.
  cases reordered with
  | same =>
    refine ⟨items, rfl, rfl, fun place => ?_⟩
    cases items[place]? with
    | none => exact .none
    | some held => exact .some (.same held)
  | @array _ others length each => exact ⟨others, rfl, length, rel_getElem? length each⟩

end Reordered

end Conform.Value
