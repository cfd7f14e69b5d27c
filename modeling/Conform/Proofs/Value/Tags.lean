import Conform.Value.Tag

/-! A tag that a value can have is told from all others by its name. -/

namespace Conform

/-- The tag of a name is called by that name. -/
theorem TypeTag.name_ofName (text : String) : (ofName text).name = text := by
  -- The search looks for a category of that name, and a class is called what it is called.
  unfold ofName
  cases found : categories.find? fun tag => tag.name == text with
  | none => rfl
  | some tag => simpa using List.find?_some found

/-- The name of a category leads back to the category. -/
theorem TypeTag.ofName_name {tag : TypeTag} (category : tag.isOther = false) :
    ofName tag.name = tag := by
  -- No two categories share a name, so the search stops at no other.
  cases tag with
  | other name => cases category
  | _ => rfl

/-- The four class tags that are categories as they stand are reduced to the names of these, so only a
generator can have another tag than the one read off its class tag. -/
theorem HostObject.tag_eq_or_generator (owned : HostObject) :
    owned.tag = .ofClassTag owned.classTag ∨ owned.generator = true ∧ owned.tag = .generator := by
  obtain ⟨classTag, generator, payload, id⟩ := owned
  unfold tag
  dsimp only
  -- The branches come in the order in which the tag looks for them.
  split
  case isTrue symbol => subst symbol; exact .inl (by decide)
  split
  case isTrue promise => subst promise; exact .inl (by decide)
  split
  case isTrue weakMap => subst weakMap; exact .inl (by decide)
  split
  case isTrue weakSet => subst weakSet; exact .inl (by decide)
  split
  case isTrue generates => exact .inr ⟨generates, rfl⟩
  exact .inl rfl

/-- The tag of a value falls into a category, or it is read off a class tag. -/
theorem Value.tag_cases (value : Value) :
    value.tag.isOther = false ∨ ∃ classTag, value.tag = .ofClassTag classTag := by
  cases value with
  | host owned =>
    -- Only a host object can be of a class without a category.
    rcases owned.tag_eq_or_generator with reduced | ⟨-, generator⟩
    · exact .inr ⟨owned.classTag, reduced⟩
    · left
      show owned.tag.isOther = false
      rw [generator]
      rfl
  | function callable =>
    left
    show (if callable.generator then TypeTag.generatorFunction else .function).isOther = false
    split <;> rfl
  | typedArray elements => cases elements <;> exact .inl rfl
  | _ => exact .inl rfl

/-- The name of a value's tag leads back to the tag: no class takes the name of a category. -/
theorem Value.ofName_name_tag (value : Value) : TypeTag.ofName value.tag.name = value.tag := by
  rcases value.tag_cases with category | ⟨classTag, reduced⟩
  · exact TypeTag.ofName_name category
  · -- A reduced class tag has already been looked up among the names of categories.
    rw [reduced, TypeTag.ofClassTag, TypeTag.name_ofName]

end Conform
