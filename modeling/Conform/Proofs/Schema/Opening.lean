import Conform.Proofs.Schema.Arrays
import Conform.Proofs.Schema.Dictionaries
import Conform.Proofs.Schema.Reach
import Conform.Proofs.Schema.Shapes

/-! The places at which containers open a value, and the schemas that they ask there. -/

namespace Conform.Schema

/-- A container opens a value at every place that it asks another question about. An entry of a
dictionary has two such places, one for its name and one for what it holds. -/
inductive Opens : Schema → Value → Slot → Prop where
  | name {label mode guard members slot} {fields : Members Schema}
      (among : slot ∈ shapeSlots mode label.defaults fields members) :
      Opens (shape label mode guard fields) (.object members) slot
  | element {label guard element items slot} (among : slot ∈ listSlots element items) :
      Opens (list label guard element) (.array items) slot
  | item {label guard schemas items slot} (among : slot ∈ tupleSlots schemas items) :
      Opens (tuple label guard schemas) (.array items) slot
  -- Both places of an entry stand under its name.
  | key {label guard key item name value} {members : Members Value}
      (held : (name, value) ∈ members) :
      Opens (dict label guard key item) (.object members)
        ⟨.key name, some key, .string name, true⟩
  | entry {label guard key item name value} {members : Members Value}
      (held : (name, value) ∈ members) :
      Opens (dict label guard key item) (.object members) ⟨.key name, some item, value, true⟩

variable {links : Links} {schema field : Schema} {value : Value} {slot : Slot}

/-- The slots of a shape are those of declared names and of members. -/
theorem field_or_member_of_mem_shapeSlots {mode : ShapeMode} {defaults : Option Defaults}
    {fields : Members Schema} {members : Members Value}
    (among : slot ∈ shapeSlots mode defaults fields members) :
    (∃ field ∈ fields, fieldSlot defaults members (.object members) field = slot) ∨
      ∃ member ∈ members, memberSlot defaults fields (.object members) member = slot := by
  -- Where names are free, only declared ones have slots.
  by_cases strict : mode = .extensible
  · subst strict
    exact .inl (List.mem_map.1 among)
  · obtain ⟨absent, slots, others⟩ := shapeSlots_strict defaults fields members strict
    rw [slots, List.mem_append] at among
    rcases among with held | follows
    · exact .inr (List.mem_map.1 held)
    · -- Those that follow are of declared names that the object lacks.
      obtain ⟨field, lacking, same⟩ := List.mem_map.1 (others.subset follows)
      exact .inl ⟨field, (List.mem_filter.1 lacking).1, same⟩

/-- What a shape asks about is declared for one of its names. -/
theorem exists_field_of_mem_shapeSlots {mode : ShapeMode} {defaults : Option Defaults}
    {fields : Members Schema} {members : Members Value}
    (among : slot ∈ shapeSlots mode defaults fields members)
    (declared : slot.declared = some field) : ∃ name, (name, field) ∈ fields := by
  rcases field_or_member_of_mem_shapeSlots among with ⟨entry, held, rfl⟩ | ⟨member, _, rfl⟩
  · cases declared
    exact ⟨entry.1, held⟩
  · -- A member has what is declared for its name, if anything is.
    unfold memberSlot at declared
    split at declared
    · rename_i found
      cases declared
      exact ⟨member.1, Members.mem_of_get? found⟩
    · cases declared

/-- Without a default, what a shape looks at is something that the object holds, or undefined. -/
theorem undefined_or_mem_of_mem_shapeSlots {mode : ShapeMode} {fields : Members Schema}
    {members : Members Value} (among : slot ∈ shapeSlots mode none fields members) :
    slot.value = .undefined ∨ ∃ name, (name, slot.value) ∈ members := by
  rcases field_or_member_of_mem_shapeSlots among with ⟨field, _, rfl⟩ | ⟨member, held, rfl⟩
  · show candidate none members field.1 = .undefined ∨
      ∃ name, (name, candidate none members field.1) ∈ members
    rw [candidate_none]
    -- The name is absent, or something is held under it.
    cases found : members.get? field.1 with
    | none => exact .inl rfl
    | some value => exact .inr ⟨field.1, Members.mem_of_get? found⟩
  · -- Declared or not, a member is looked at as it is.
    refine .inr ⟨member.1, ?_⟩
    unfold memberSlot
    split <;> exact held

/-- A container leads to the schemas that it asks about places of its value. -/
theorem Opens.leads (opens : Opens schema value slot) (declared : slot.declared = some field) :
    Leads links schema field := by
  -- Each sort of container declares for its places what it leads to.
  cases opens with
  | name among =>
    obtain ⟨name, entry⟩ := exists_field_of_mem_shapeSlots among declared
    exact .field entry
  | element among =>
    obtain ⟨place, item, _, rfl⟩ := mem_listSlots among
    cases declared
    exact .element
  | item among =>
    obtain ⟨place, _, rfl⟩ := mem_tupleSlots.1 among
    exact .item (List.mem_of_getElem? declared)
  | key held =>
    cases declared
    exact .key
  | entry held =>
    cases declared
    exact .entry

end Conform.Schema
