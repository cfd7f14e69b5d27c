import Conform.Proofs.Schema.Defaults
import Conform.Proofs.Schema.Step

/-! What validation keeps of every value, whatever the defaults: its kind and its well-formedness. -/

namespace Conform

namespace Value

/-- The test for being undefined. -/
theorem isUndefined_iff {value : Value} : value.isUndefined = true ↔ value = .undefined := by
  cases value <;> simp [isUndefined]

/-- A value that is defined stays what it is, except that containers may hold something else. -/
inductive Kept : Value → Value → Prop where
  | same (value : Value) : Kept value value
  | object (members accepted : Members Value) : Kept (.object members) (.object accepted)
  | array (items accepted : List Value) : Kept (.array items) (.array accepted)
  | filled (accepted : Value) : Kept .undefined accepted

namespace Kept

variable {value accepted : Value}

/-- Only what is undefined is kept as undefined. -/
theorem eq_undefined (kept : value.Kept .undefined) : value = .undefined := by
  cases kept <;> rfl

/-- A text stays as it is. -/
theorem of_string {text : String} (kept : Kept (.string text) accepted) :
    accepted = .string text := by
  -- Only undefined, objects and arrays may be changed.
  cases kept
  rfl

/-- What is kept twice is kept. -/
theorem trans {middle : Value} (first : value.Kept middle) (second : middle.Kept accepted) :
    value.Kept accepted := by
  -- The first value fixes the kind of the second, and that the kind of the third.
  cases first with
  | same => exact second
  | filled => exact .filled accepted
  | object members => cases second <;> exact .object members _
  | array items => cases second <;> exact .array items _

end Kept

end Value

namespace Schema

variable {links : Links} {check : Checker} {schema : Schema} {value accepted : Value}
  {parent : Option Value}

/-- The default of a node keeps every value that is defined. -/
theorem kept_effective (schema : Schema) (value : Value) (parent : Option Value) :
    value.Kept (schema.effective value parent) := by
  -- A default is laid under objects, or it replaces what is undefined.
  cases given : schema.defaults with
  | none =>
    rw [effective_of_defaultFree given]
    exact .same value
  | some defaults =>
    by_cases merges : schema.Merges
    · rw [effective_of_merges merges given]
      unfold Defaults.mergeUnder
      split
      · exact .object _ _
      · exact .filled _
      · exact .same _
    · rw [effective_of_not_merges merges given]
      cases value with
      | undefined => exact .filled _
      | _ => exact .same _

/-- A step keeps what it accepts, if the steps that it leads to do. -/
theorem Concludes.kept (concluded : Concludes links check schema value parent (.ok accepted))
    (below : ∀ next, Leads links schema next → ∀ value parent accepted,
      check next value parent = .ok (.ok accepted) → value.Kept accepted) :
    value.Kept accepted := by
  -- Containers are rebuilt as containers of their kind, and all other nodes hand the value on.
  cases concluded with
  | admitted => exact .same value
  | shape _ checked =>
    obtain ⟨_, _, rfl⟩ := checkShape_eq_ok_iff.1 checked
    exact .object _ _
  | list _ checked =>
    obtain ⟨_, rfl, _⟩ := checkItems_eq_ok_iff.1 checked
    exact .array _ _
  | tuple _ checked =>
    obtain ⟨_, rfl, _⟩ := checkItems_eq_ok_iff.1 checked
    exact .array _ _
  | dict _ checked =>
    obtain ⟨_, rfl, _⟩ := checkDict_eq_ok_iff.1 checked
    exact .object _ _
  | alternative _ checked => exact below _ (.alternative (by simp)) value parent accepted checked
  | parts checked =>
    exact (passThrough_relates .same .trans (fun part among old new _ checkedPart =>
      ⟨below part (.part among) old parent new checkedPart, trivial⟩)
      (trivial : (fun _ => True) value) checked).1
  | target known checked => exact below _ (.target known) value parent accepted checked
  | selected checked => exact below _ (.selected value parent) value parent accepted checked

/-- Validation keeps what it accepts. -/
theorem kept_validate {depth : Nat}
    (checked : validate links depth schema value parent = .ok (.ok accepted)) :
    value.Kept accepted := by
  -- Each level applies its default and then takes a step.
  induction depth generalizing schema value parent accepted with
  | zero => cases checked
  | succ depth ih =>
    have concluded := concludes_of_checkEffective checked
    exact (kept_effective schema value parent).trans (concluded.kept fun _ _ _ _ _ => ih)

/-- The names of a node's fields are distinct, and so are those of the objects in its default. -/
structure NamesDistinct (node : Schema) : Prop where
  declared : node.declaredNames.Nodup
  defaults : ∀ defaults, node.defaults = some defaults → defaults.WellFormed

/-- The effective value of a well-formed one is well-formed. -/
theorem wellFormed_effective
    (soundDefaults : ∀ defaults, schema.defaults = some defaults → defaults.WellFormed)
    (sound : value.WellFormed) (parent : Option Value) :
    (schema.effective value parent).WellFormed := by
  -- The value is merged with the default, replaced by it, or left alone.
  cases given : schema.defaults with
  | none =>
    rw [effective_of_defaultFree given]
    exact sound
  | some defaults =>
    have soundDefault := soundDefaults defaults given
    by_cases merges : schema.Merges
    · rw [effective_of_merges merges given]
      exact soundDefault.mergeUnder sound
    · rw [effective_of_not_merges merges given]
      split
      · exact soundDefault.resolve parent
      · exact sound

/-- The value under a declared name of a well-formed object is well-formed. -/
theorem wellFormed_candidate {defaults : Option Defaults} {members : Members Value}
    (soundDefaults : ∀ given, defaults = some given → given.WellFormed)
    (sound : (Value.object members).WellFormed) (name : String) :
    (candidate defaults members name).WellFormed := by
  -- It is what the name holds, or else what the default has under it.
  have held := sound.member name
  cases defaults with
  | none =>
    unfold candidate fieldValue
    cases found : members.get? name with
    | none => exact Value.wellFormed_undefined
    | some value => rwa [found] at held
  | some given =>
    have filled := (soundDefaults given rfl).resolveField name (.object members)
    unfold candidate fieldValue
    cases found : members.get? name with
    | none => exact filled
    | some value =>
      rw [found] at held
      dsimp only
      split
      · exact filled
      · exact held

/-- A checker accepts well-formed values as well-formed ones. -/
def KeepsWellFormed (check : Checker) (schema : Schema) : Prop :=
  ∀ value parent accepted, value.WellFormed → check schema value parent = .ok (.ok accepted) →
    accepted.WellFormed

/-- A step accepts well-formed values as well-formed ones, if the steps that it leads to do. -/
theorem Concludes.wellFormed
    (concluded : Concludes links check schema value parent (.ok accepted))
    (node : NamesDistinct schema) (sound : value.WellFormed)
    (kept : ∀ next, Leads links schema next → ∀ value parent accepted,
      check next value parent = .ok (.ok accepted) → value.Kept accepted)
    (below : ∀ next, Leads links schema next → KeepsWellFormed check next) :
    accepted.WellFormed := by
  -- Whatever stands in an accepted container has been accepted or was there before.
  cases concluded with
  | admitted => exact sound
  | @shape label mode guard fields members _ _ _ checked =>
    have ⟨distinct, values⟩ := (Value.wellFormed_object members).1 sound
    obtain ⟨result, rfl, accepts⟩ := checkShape_eq_ok node.declared distinct checked
    refine (Value.wellFormed_object result).2 ⟨accepts.distinct, fun name value held => ?_⟩
    have read := Members.get?_of_mem accepts.distinct held
    by_cases declared : name ∈ Members.names fields
    · -- What stands under a declared name has come out of the check of its field.
      obtain ⟨field, declared⟩ := Members.exists_of_mem_names declared
      have examined : ¬ Skips mode label.defaults members name := by
        intro skips
        rw [accepts.skipped name skips] at read
        cases read
      obtain ⟨checkedValue, checked, same⟩ := accepts.examined name field declared examined
      rw [same] at read
      split at read
      · cases read
        exact below field (.field declared) _ _ _ (wellFormed_candidate node.defaults sound name)
          checked
      · cases read
    · rw [accepts.undeclared name declared] at read
      exact values name value (Members.mem_of_get? read)
  | list _ checked =>
    obtain ⟨results, rfl, each⟩ := checkItems_list_eq_ok_iff.1 checked
    refine (Value.wellFormed_array results).2 fun result given => ?_
    obtain ⟨item, held, checkedItem⟩ := exists_related each.flip result given
    exact below _ .element _ _ _ ((Value.wellFormed_array _).1 sound item held) checkedItem
  | @tuple label guard schemas items _ _ _ checked =>
    obtain ⟨_, results, rfl, length, each⟩ := checkItems_tuple_eq_ok_iff.1 checked
    refine (Value.wellFormed_array results).2 fun result given => ?_
    -- A result has a place, and the tuple has a schema for it.
    obtain ⟨place, given⟩ := List.getElem?_of_mem given
    obtain ⟨inside, _⟩ := List.getElem?_eq_some_iff.1 given
    have declared := List.getElem?_eq_getElem (show place < schemas.length by omega)
    exact below _ (.item (List.mem_of_getElem? declared)) _ _ _ (sound.element place)
      (each place _ result declared given)
  | @dict label guard key item members _ _ _ checked =>
    have ⟨distinct, values⟩ := (Value.wellFormed_object members).1 sound
    obtain ⟨results, rfl, each⟩ := (checkDict_eq_ok_iff_of_kept distinct
      fun name result checkedKey => (kept _ .key _ _ _ checkedKey).of_string).1 checked
    -- No key changes, so the names stay distinct.
    refine (Value.wellFormed_object results).2
      ⟨(names_of_related each).symm ▸ distinct, fun name value given => ?_⟩
    obtain ⟨⟨_, old⟩, held, _, _, checkedItem⟩ := exists_related each.flip _ given
    exact below _ .entry _ _ _ (values _ old held) checkedItem
  | alternative _ checked =>
    exact below _ (.alternative (by simp)) value parent accepted sound checked
  | parts checked =>
    exact (passThrough_relates (fun _ => trivial) (fun _ _ => trivial)
      (fun part among old new soundOld checkedPart =>
        ⟨(trivial : (fun _ _ => True) old new),
          below part (.part among) old parent new soundOld checkedPart⟩) sound checked).2
  | target known checked => exact below _ (.target known) value parent accepted sound checked
  | selected checked =>
    exact below _ (.selected value parent) value parent accepted sound checked

/-- Where names are distinct at every node that can be reached, validation accepts well-formed values
as well-formed ones. -/
theorem wellFormed_validate (depth : Nat) (nodes : Throughout links NamesDistinct schema) :
    KeepsWellFormed (validate links depth) schema := by
  -- The depth decreases with each step, whichever node it leads to.
  induction depth generalizing schema with
  | zero =>
    intro value parent accepted _ checked
    cases checked
  | succ depth ih =>
    intro value parent accepted sound checked
    have soundEffective := wellFormed_effective nodes.here.defaults sound parent
    exact (concludes_of_checkEffective checked).wellFormed nodes.here soundEffective
      (fun _ _ _ _ _ => kept_validate) fun next leads => ih (nodes.below leads)

end Schema

end Conform
