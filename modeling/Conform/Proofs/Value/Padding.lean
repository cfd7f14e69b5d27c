import Conform.Proofs.Value.WellFormed

/-! Padding: a value as it was, except that arrays may have become longer by undefined elements. -/

namespace Conform.Value

/-- A value and what padding may make of it. Whatever is no container stays as it is, an object keeps
its names and their order, and an array keeps its elements in place and may be filled up at its end to
one of the given lengths. -/
inductive Padded (size : Nat → Prop) : Value → Value → Prop where
  | same (value : Value) : Padded size value value
  | object {members accepted : Members Value} (sameNames : accepted.names = members.names)
      (each : ∀ name old new, members.get? name = some old → accepted.get? name = some new →
        Padded size old new) :
      Padded size (.object members) (.object accepted)
  | array {items accepted : List Value}
      (length : accepted.length = items.length ∨
        items.length < accepted.length ∧ size accepted.length)
      (each : ∀ (place : Nat) old new, items[place]? = some old → accepted[place]? = some new →
        Padded size old new)
      -- What stands beyond the old end is nothing but undefined.
      (appended : ∀ (place : Nat) new, items.length ≤ place → accepted[place]? = some new →
        new = .undefined) :
      Padded size (.array items) (.array accepted)

namespace Padded

variable {size : Nat → Prop} {value accepted : Value}

/-- What is undefined stays undefined. -/
theorem of_undefined (padded : Padded size .undefined accepted) : accepted = .undefined := by
  -- Only arrays and objects are padded.
  cases padded
  rfl

/-- A text stays as it is. -/
theorem of_string {text : String} (padded : Padded size (.string text) accepted) :
    accepted = .string text := by
  -- Only arrays and objects are padded.
  cases padded
  rfl

/-- What an object is padded to is an object of the same names. -/
theorem of_object {members : Members Value} (padded : Padded size (.object members) accepted) :
    ∃ others : Members Value, accepted = .object others ∧ others.names = members.names ∧
      ∀ name old new, members.get? name = some old → others.get? name = some new →
        Padded size old new := by
  -- Even without any change, each member is padded to itself.
  cases padded with
  | same =>
    refine ⟨members, rfl, rfl, fun name old new held given => ?_⟩
    rw [held] at given
    cases given
    exact .same old
  | object sameNames each => exact ⟨_, rfl, sameNames, each⟩

/-- What an array is padded to is an array that holds the same elements in front. -/
theorem of_array {items : List Value} (padded : Padded size (.array items) accepted) :
    ∃ others : List Value, accepted = .array others ∧
      (others.length = items.length ∨ items.length < others.length ∧ size others.length) ∧
      (∀ (place : Nat) old new, items[place]? = some old → others[place]? = some new →
        Padded size old new) ∧
      ∀ (place : Nat) new, items.length ≤ place → others[place]? = some new →
        new = .undefined := by
  -- Even without any change, each element is padded to itself and nothing lies past the end.
  cases padded with
  | same =>
    refine ⟨items, rfl, .inl rfl, fun place old new held given => ?_, fun place new past given => ?_⟩
    · rw [held] at given
      cases given
      exact .same old
    · rw [List.getElem?_eq_none past] at given
      cases given
  | array length each appended => exact ⟨_, rfl, length, each, appended⟩

/-- Padding twice is padding. -/
theorem trans {middle : Value} (first : Padded size value middle)
    (second : Padded size middle accepted) : Padded size value accepted := by
  -- The induction follows the first padding, whose containers fix the kind of the second.
  induction first generalizing accepted with
  | same => exact second
  | @object members others sameNames each ih =>
    obtain ⟨last, rfl, namesToo, eachToo⟩ := second.of_object
    refine .object (namesToo.trans sameNames) fun name old new held given => ?_
    -- The middle object holds something under every name of the others.
    cases found : others.get? name with
    | none =>
      have absent := (Members.get?_eq_none_iff others name).1 found
      rw [sameNames] at absent
      exact absurd (Members.mem_names (Members.mem_of_get? held)) absent
    | some between =>
      exact ih name old between held found (eachToo name between new found given)
  | @array items others length each appended ih =>
    obtain ⟨last, rfl, lengthToo, eachToo, appendedToo⟩ := second.of_array
    have grows : items.length ≤ others.length := by
      rcases length with same | longer
      · omega
      · omega
    refine .array ?_ (fun place old new held given => ?_) fun place new past given => ?_
    · -- Either the second padding leaves the length alone, or it fills up to one of the lengths.
      rcases lengthToo with same | longer
      · rwa [same]
      · exact .inr ⟨by omega, longer.2⟩
    · -- An element of the first array stands in the middle one too.
      obtain ⟨inside, _⟩ := List.getElem?_eq_some_iff.1 held
      have found := List.getElem?_eq_getElem (show place < others.length by omega)
      exact ih place old _ held found (eachToo place _ new found given)
    · by_cases inside : place < others.length
      · -- The first padding has put an undefined element there, and the second keeps it.
        have found := List.getElem?_eq_getElem inside
        have padded := eachToo place _ new found given
        rw [appended place _ past found] at padded
        exact padded.of_undefined
      · exact appendedToo place new (by omega) given

/-- Padding keeps a value well-formed. -/
theorem wellFormed (padded : Padded size value accepted) (sound : value.WellFormed) :
    accepted.WellFormed := by
  -- What stands in a padded container is padded itself, or it is undefined.
  induction padded with
  | same => exact sound
  | @object members accepted sameNames each ih =>
    obtain ⟨distinct, values⟩ := (wellFormed_object members).1 sound
    rw [wellFormed_object, sameNames]
    refine ⟨distinct, fun name new given => ?_⟩
    have names : name ∈ members.names := sameNames ▸ Members.mem_names given
    obtain ⟨old, held⟩ := Members.exists_of_mem_names names
    exact ih name old new (Members.get?_of_mem distinct held)
      (Members.get?_of_mem (sameNames ▸ distinct) given) (values name old held)
  | @array items accepted length each appended ih =>
    rw [wellFormed_array] at sound ⊢
    intro new given
    obtain ⟨place, found⟩ := List.getElem?_of_mem given
    by_cases inside : place < items.length
    · have held := List.getElem?_eq_getElem inside
      exact ih place _ new held found (sound _ (List.mem_of_getElem? held))
    · -- Past the end of the array everything is undefined.
      rw [appended place new (by omega) found]
      exact wellFormed_undefined

/-- With no length to fill up to, padding changes nothing. -/
theorem eq_of_no_size (noSize : ∀ count, ¬ size count) (padded : Padded size value accepted)
    (sound : value.WellFormed) : accepted = value := by
  -- Neither names nor lengths change, so containers are equal place by place.
  induction padded with
  | same => rfl
  | @object members accepted sameNames each ih =>
    obtain ⟨distinct, values⟩ := (wellFormed_object members).1 sound
    congr 1
    refine Members.ext_get? (sameNames ▸ distinct) sameNames fun name held => ?_
    obtain ⟨new, given⟩ := Members.exists_of_mem_names held
    rw [sameNames] at held
    obtain ⟨old, held⟩ := Members.exists_of_mem_names held
    have readNew := Members.get?_of_mem (sameNames ▸ distinct) given
    have readOld := Members.get?_of_mem distinct held
    rw [readNew, readOld, ih name old new readOld readNew (values name old held)]
  | @array items accepted length each appended ih =>
    rw [wellFormed_array] at sound
    have same : accepted.length = items.length :=
      length.resolve_right fun longer => noSize _ longer.2
    congr 1
    refine List.ext_getElem same fun place given held => ?_
    exact ih place _ _ (List.getElem?_eq_getElem held) (List.getElem?_eq_getElem given)
      (sound _ (List.getElem_mem held))

end Padded

end Conform.Value
