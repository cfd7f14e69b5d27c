import Conform.Proofs.Value.WellFormed

/-! What stands directly in a value, whatever sort of container it is, and induction over it. -/

namespace Conform.Value

/-- Where something stands in a container: at a place in a row, under a name, or in an entry of a map,
there as the key or as what the key leads to. -/
inductive Spot where
  | item (place : Nat)
  | member (name : String)
  | key (place : Nat)
  | entry (place : Nat)

/-- What stands at a spot of a value. -/
def part? : Value → Spot → Option Value
  | array items, .item place => items[place]?
  | arguments items, .item place => items[place]?
  -- Sets and maps keep an order, so places name their elements.
  | set items, .item place => items[place]?
  | object members, .member name => Members.get? members name
  | map entries, .key place => entries[place]?.map Prod.fst
  | map entries, .entry place => entries[place]?.map Prod.snd
  | _, _ => none

variable {value part : Value} {spot : Spot}

/-- What stands in a value is in the row of one, a member of an object, or in an entry of a map. -/
theorem part?_cases (found : value.part? spot = some part) :
    (∃ items, (value = array items ∨ value = arguments items ∨ value = set items) ∧ part ∈ items) ∨
      (∃ members name, value = object members ∧ (name, part) ∈ members) ∨
      ∃ entries entry, value = map entries ∧ entry ∈ entries ∧ (part = entry.1 ∨ part = entry.2) := by
  -- A spot finds something in the containers of its own sort alone.
  unfold part? at found
  split at found
  · exact .inl ⟨_, .inl rfl, List.mem_of_getElem? found⟩
  · exact .inl ⟨_, .inr (.inl rfl), List.mem_of_getElem? found⟩
  · exact .inl ⟨_, .inr (.inr rfl), List.mem_of_getElem? found⟩
  · exact .inr (.inl ⟨_, _, rfl, Members.mem_of_get? found⟩)
  · obtain ⟨entry, held, rfl⟩ := Option.map_eq_some_iff.1 found
    exact .inr (.inr ⟨_, entry, rfl, List.mem_of_getElem? held, .inl rfl⟩)
  · obtain ⟨entry, held, rfl⟩ := Option.map_eq_some_iff.1 found
    exact .inr (.inr ⟨_, entry, rfl, List.mem_of_getElem? held, .inr rfl⟩)
  · cases found

/-- What stands in a value is smaller than the value. -/
theorem sizeOf_part (found : value.part? spot = some part) : sizeOf part < sizeOf value := by
  -- What stands in a list is smaller than the list, which is smaller than the value.
  rcases part?_cases found with
    ⟨items, row, among⟩ | ⟨members, name, rfl, among⟩ | ⟨entries, entry, rfl, among, either⟩
  · have smaller := List.sizeOf_lt_of_mem among
    rcases row with rfl | rfl | rfl
    all_goals
      simp only [array.sizeOf_spec, arguments.sizeOf_spec, set.sizeOf_spec]
      omega
  · have smaller := List.sizeOf_lt_of_mem among
    simp only [object.sizeOf_spec, Prod.mk.sizeOf_spec] at smaller ⊢
    omega
  · obtain ⟨key, value⟩ := entry
    have smaller := List.sizeOf_lt_of_mem among
    simp only [map.sizeOf_spec, Prod.mk.sizeOf_spec] at smaller ⊢
    rcases either with rfl | rfl <;> omega

/-- What holds of a value once it holds of all that stands in it holds of every value. -/
@[elab_as_elim] theorem part_induction {motive : Value → Prop}
    (step : ∀ value, (∀ spot part, value.part? spot = some part → motive part) → motive value)
    (value : Value) : motive value :=
  step value fun _ part _ => part_induction step part
termination_by sizeOf value
decreasing_by exact sizeOf_part ‹_›

/-- Entries of a map are well-formed when each key and each value is. -/
theorem entriesWellFormed_iff (entries : List (Value × Value)) :
    EntriesWellFormed entries ↔ ∀ entry ∈ entries, entry.1.WellFormed ∧ entry.2.WellFormed := by
  -- The entries are gone through from the front.
  induction entries with
  | nil => simp [EntriesWellFormed]
  | cons entry rest ih =>
    obtain ⟨key, value⟩ := entry
    simp [EntriesWellFormed, ih, and_assoc]

/-- What stands in a well-formed value is well-formed. -/
theorem wellFormed_part (sound : value.WellFormed) (found : value.part? spot = some part) :
    part.WellFormed := by
  rcases part?_cases found with
    ⟨items, row, among⟩ | ⟨members, name, rfl, among⟩ | ⟨entries, entry, rfl, among, either⟩
  · -- Rows of all three sorts are well-formed on the same terms.
    rcases row with rfl | rfl | rfl <;> exact (allWellFormed_iff items).1 sound part among
  · exact ((wellFormed_object members).1 sound).2 name part among
  · have both := (entriesWellFormed_iff entries).1 sound entry among
    rcases either with rfl | rfl
    · exact both.1
    · exact both.2

/-- A value is well-formed if all that stands in it is, and if it names nothing twice. -/
theorem wellFormed_of_parts
    (distinct : ∀ members : Members Value, value = .object members → members.names.Nodup)
    (each : ∀ spot part, value.part? spot = some part → part.WellFormed) : value.WellFormed := by
  -- Whatever a container holds is found at some spot.
  cases value with
  | array items | arguments items | set items =>
    refine (allWellFormed_iff items).2 fun item among => ?_
    obtain ⟨place, held⟩ := List.getElem?_of_mem among
    exact each (.item place) item held
  | object members =>
    have once := distinct members rfl
    refine (wellFormed_object members).2 ⟨once, fun name value among => ?_⟩
    exact each (.member name) value (Members.get?_of_mem once among)
  | map entries =>
    refine (entriesWellFormed_iff entries).2 fun entry among => ?_
    obtain ⟨place, held⟩ := List.getElem?_of_mem among
    have key : entries[place]?.map Prod.fst = some entry.1 := congrArg (Option.map Prod.fst) held
    have value : entries[place]?.map Prod.snd = some entry.2 := congrArg (Option.map Prod.snd) held
    exact ⟨each (.key place) _ key, each (.entry place) _ value⟩
  | _ => exact trivial

end Conform.Value
