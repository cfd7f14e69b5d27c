import Conform.Proofs.Schema.Registry
import Conform.Proofs.Value.Tags
import Conform.Value.Json

/-! The built-in types, but for the one of anything, part the values among them by their tags. -/

namespace Conform

/-- Plain acceptance passes, and plain rejection does not. -/
@[simp] theorem Verdict.isPass_ofBool (accepted : Bool) : (ofBool accepted).isPass = accepted := by
  cases accepted <;> rfl

/-- A class tag that is reduced to the name of dates makes a host object a date, or leaves it a
generator. -/
theorem HostObject.tag_of_reduced_date {owned : HostObject}
    (reduced : TypeTag.reduce owned.classTag = "date") :
    owned.tag = .date ∨ owned.tag = .generator := by
  -- A host object is a generator, or else what its class tag reads as.
  rcases owned.tag_eq_or_generator with same | ⟨-, generator⟩
  · left
    rw [same, TypeTag.ofClassTag, reduced]
    rfl
  · exact .inr generator

namespace Registry

variable {name : String} {value : Value} {parent : Option Value}

/-- A name accepts a value when the predicate held under it does. -/
theorem accepts_iff {registry : Registry} :
    registry.accepts name value parent = true ↔
      ∃ predicate, (name, predicate) ∈ registry.entries ∧ (predicate value parent).isPass = true := by
  unfold accepts
  constructor
  · intro accepted
    split at accepted
    · rename_i predicate found
      exact ⟨predicate, Members.mem_of_get? found, accepted⟩
    · cases accepted
  · intro held
    obtain ⟨predicate, among, passes⟩ := held
    -- The names of a registry are distinct, so nothing hides the predicate.
    rw [show registry.get? name = some predicate from Members.get?_of_mem registry.distinct among]
    exact passes

/-- The built-in types in the order in which they are added. -/
theorem entries_builtin :
    builtin.entries = [("any", anything)] ++ builtinTags.map (fun tag => (tag.name, hasTag tag)) ++
      [("date", validDate)] := by
  have distinct : (Members.names ([("any", anything)] ++
      builtinTags.map (fun tag => (tag.name, hasTag tag)) ++ [("date", validDate)])).Nodup := by
    decide
  -- Types of distinct names are held as they are added.
  exact (entries_registerAll empty _).trans (Members.ofPairs_of_nodup distinct)

/-- A built-in name is that of anything, of a tag, or of dates. -/
theorem contains_builtin_iff :
    builtin.contains name = true ↔
      name = "any" ∨ (∃ tag ∈ builtinTags, name = tag.name) ∨ name = "date" := by
  -- The names are listed: one for anything, one for each tag, and one for dates.
  unfold contains
  rw [Members.contains_iff, entries_builtin]
  simp [Members.names_eq_map, eq_comm]

/-- Values are told to be of a tag by the tag alone. -/
theorem hasTag_isPass_iff (tag : TypeTag) :
    (hasTag tag value parent).isPass = true ↔ value.tag = tag := by
  rw [hasTag, Verdict.isPass_ofBool, beq_iff_eq]

/-- Anything but what is undefined passes for anything. -/
theorem anything_isPass_iff : (anything value parent).isPass = true ↔ value ≠ .undefined := by
  -- Only one value is undefined.
  rw [anything, Verdict.isPass_ofBool]
  cases value <;> simp [Value.isUndefined]

/-- A valid date is one that has an instant. -/
theorem validDate_isPass_iff :
    (validDate value parent).isPass = true ↔ ∃ instant, value = .date (some instant) := by
  unfold validDate
  -- Among the dates there are some without an instant.
  split
  · rename_i instant
    exact ⟨fun _ => ⟨instant, rfl⟩, fun _ => rfl⟩
  · rename_i other
    constructor
    · intro passes
      cases passes
    · intro valid
      obtain ⟨instant, same⟩ := valid
      exact absurd same (other instant)

/-- What the built-in names accept: anything that is defined, the values of a tag, and dates that have
an instant. -/
theorem accepts_builtin_iff :
    builtin.accepts name value parent = true ↔
      (name = "any" ∧ value ≠ .undefined) ∨ (∃ tag ∈ builtinTags, name = tag.name ∧ value.tag = tag) ∨
        (name = "date" ∧ ∃ instant, value = .date (some instant)) := by
  rw [accepts_iff, entries_builtin]
  simp only [List.mem_append, List.mem_singleton, List.mem_map, Prod.mk.injEq]
  constructor
  · intro accepted
    obtain ⟨predicate, among, passes⟩ := accepted
    -- The predicate is that of one of the three sorts of name.
    rcases among with (⟨rfl, rfl⟩ | ⟨tag, known, rfl, rfl⟩) | ⟨rfl, rfl⟩
    · exact .inl ⟨rfl, anything_isPass_iff.1 passes⟩
    · exact .inr (.inl ⟨tag, known, rfl, (hasTag_isPass_iff tag).1 passes⟩)
    · exact .inr (.inr ⟨rfl, validDate_isPass_iff.1 passes⟩)
  · intro accepting
    rcases accepting with ⟨rfl, defined⟩ | ⟨tag, known, rfl, same⟩ | ⟨rfl, valid⟩
    · exact ⟨anything, .inl (.inl ⟨rfl, rfl⟩), anything_isPass_iff.2 defined⟩
    · exact ⟨hasTag tag, .inl (.inr ⟨tag, known, rfl, rfl⟩), (hasTag_isPass_iff tag).2 same⟩
    · exact ⟨validDate, .inr ⟨rfl, rfl⟩, validDate_isPass_iff.2 valid⟩

/-- The tags that are registered from the start are categories, none of them called anything or date. -/
theorem name_of_mem_builtinTags {tag : TypeTag} (known : tag ∈ builtinTags) :
    tag.isOther = false ∧ tag.name ≠ "any" ∧ tag.name ≠ "date" := by
  -- There are few tags, so they are looked at one by one.
  have all : ∀ tag ∈ builtinTags,
      tag.isOther = false ∧ tag.name ≠ "any" ∧ tag.name ≠ "date" := by decide
  exact all tag known

/-- What is undefined is not called anything. -/
theorem ne_undefined_of_name_tag (called : value.tag.name = "any") : value ≠ .undefined := by
  -- What is undefined has a name of its own.
  intro undefined
  subst undefined
  exact absurd called (by decide)

/-- A valid date has the tag of dates. -/
theorem tag_eq_date_of_valid (valid : ∃ instant, value = .date (some instant)) :
    value.tag = .date := by
  -- Dates have the tag whether they are valid or not.
  obtain ⟨instant, rfl⟩ := valid
  rfl

/-- The names that accept a value are that of anything, unless it is undefined, and that of its tag, if
that is a built-in one and the value is no invalid date. -/
theorem accepts_builtin_iff_tag :
    builtin.accepts name value parent = true ↔
      (name = "any" ∧ value ≠ .undefined) ∨
        (name = value.tag.name ∧ builtin.contains name = true ∧
          (name = "date" → ∃ instant, value = .date (some instant))) := by
  rw [accepts_builtin_iff, contains_builtin_iff]
  constructor
  · intro accepting
    rcases accepting with anything | ⟨tag, known, rfl, same⟩ | ⟨rfl, valid⟩
    · exact .inl anything
    · refine .inr ⟨by rw [same], .inr (.inl ⟨tag, known, rfl⟩), fun called => ?_⟩
      exact absurd called (name_of_mem_builtinTags known).2.2
    · exact .inr ⟨by rw [tag_eq_date_of_valid valid]; rfl, .inr (.inr rfl), fun _ => valid⟩
  · intro accepting
    rcases accepting with anything | ⟨called, held, valid⟩
    · exact .inl anything
    · -- The name is built in as that of anything, of a tag or of dates.
      rcases held with rfl | ⟨tag, known, rfl⟩ | rfl
      · exact .inl ⟨rfl, ne_undefined_of_name_tag called.symm⟩
      · -- Tags of one name are the same, for both are read off it.
        refine .inr (.inl ⟨tag, known, rfl, ?_⟩)
        have category := (name_of_mem_builtinTags known).1
        rw [← value.ofName_name_tag, ← called, TypeTag.ofName_name category]
      · exact .inr (.inr ⟨rfl, valid rfl⟩)

/-- A value that is called a date without being a valid one, or that is a generator, is accepted under
no name but that of anything. -/
theorem accepts_builtin_iff_any (defined : value ≠ .undefined)
    (outside : value.tag = .date ∧ (∀ instant, value ≠ .date (some instant)) ∨
      value.tag = .generator) :
    builtin.accepts name value parent = true ↔ name = "any" := by
  rw [accepts_builtin_iff_tag]
  refine ⟨fun accepting => ?_, fun called => .inl ⟨called, defined⟩⟩
  rcases accepting with ⟨called, _⟩ | ⟨rfl, held, valid⟩
  · exact called
  · rcases outside with ⟨tag, invalid⟩ | tag
    · rw [tag] at valid
      obtain ⟨instant, same⟩ := valid rfl
      exact absurd same (invalid instant)
    · -- Generators have a tag, but their name is not registered.
      rw [tag] at held
      exact absurd held (by decide)

/-- What a document describes has a tag that is registered from the start. -/
theorem tag_ofJson_mem (document : Json) : (Value.ofJson document).tag ∈ builtinTags := by
  cases document <;> simp [Value.ofJson, Value.tag, builtinTags]

/-- The built-in types part the values. The name of a value's tag leads back to the tag, so tags are the
same if their names are. The built-in names that accept a value are that of anything, unless the value
is undefined, and that of its tag, where dates have to be valid; so there are no two of the latter. An
invalid date and a host object that only calls itself a date are accepted under the name of anything
alone, and what is read from a document is accepted under exactly one other name. -/
theorem builtin_types_partition (value : Value) (parent : Option Value) :
    TypeTag.ofName value.tag.name = value.tag ∧
    (∀ other : Value, value.tag = other.tag ↔ value.tag.name = other.tag.name) ∧
    (∀ name, builtin.accepts name value parent = true ↔
      (name = "any" ∧ value ≠ .undefined) ∨
        (name = value.tag.name ∧ builtin.contains name = true ∧
          (name = "date" → ∃ instant, value = .date (some instant)))) ∧
    (∀ name other, name ≠ "any" → other ≠ "any" →
      builtin.accepts name value parent = true → builtin.accepts other value parent = true →
      name = other) ∧
    ((value = .date none ∨ ∃ owned, value = .host owned ∧
        TypeTag.reduce owned.classTag = "date") →
      ∀ name, builtin.accepts name value parent = true ↔ name = "any") ∧
    (∀ document, value = .ofJson document →
      ∃! name, name ≠ "any" ∧ builtin.accepts name value parent = true) := by
  -- A name other than that of anything accepts a value only if it is the name of its tag.
  have named : ∀ name, name ≠ "any" → builtin.accepts name value parent = true →
      name = value.tag.name := by
    intro name other accepted
    rcases accepts_builtin_iff_tag.1 accepted with ⟨called, _⟩ | ⟨called, _⟩
    · exact absurd called other
    · exact called
  refine ⟨value.ofName_name_tag, ?_, fun name => accepts_builtin_iff_tag, ?_, ?_, ?_⟩
  · intro other
    refine ⟨fun same => congrArg TypeTag.name same, fun called => ?_⟩
    rw [← value.ofName_name_tag, called, other.ofName_name_tag]
  · intro name other notAny otherNotAny accepted acceptedToo
    exact (named name notAny accepted).trans (named other otherNotAny acceptedToo).symm
  · -- An invalid date has a tag that its type does not accept, and so has a host object that calls
    -- itself one.
    intro called name
    rcases called with rfl | ⟨owned, rfl, reduced⟩
    · exact accepts_builtin_iff_any (by simp) (.inl ⟨rfl, by simp⟩)
    · refine accepts_builtin_iff_any (by simp) ?_
      rcases HostObject.tag_of_reduced_date reduced with date | generator
      · exact .inl ⟨date, by simp⟩
      · exact .inr generator
  · -- A document is none of those, so the name of its tag accepts it.
    intro document described
    have known : value.tag ∈ builtinTags := described ▸ tag_ofJson_mem document
    refine ⟨value.tag.name, ⟨(name_of_mem_builtinTags known).2.1, ?_⟩, fun name accepted => ?_⟩
    · exact accepts_builtin_iff.2 (.inr (.inl ⟨value.tag, known, rfl, rfl⟩))
    · exact named name accepted.1 accepted.2

/-- A host object whose class tag only reads like a date is accepted as anything, a generator function
as that and nothing else, and an array that has been read as an array. -/
theorem builtin_types_partition_guises :
    (∀ name, builtin.accepts name (.host (.tagged "Da Te" "()" 0)) none = true ↔ name = "any") ∧
      (∀ name, name ≠ "any" →
        builtin.accepts name (.function ⟨"steps", true, 1⟩) none = true →
        name = "generatorfunction") ∧
      ∃! name, name ≠ "any" ∧ builtin.accepts name (.ofJson (.array [.null])) none = true := by
  -- The general account is read for three values.
  refine ⟨?_, fun name notAny accepted => ?_, ?_⟩
  · exact (builtin_types_partition (.host (.tagged "Da Te" "()" 0)) none).2.2.2.2.1
      (.inr ⟨_, rfl, by decide⟩)
  · exact (builtin_types_partition (.function ⟨"steps", true, 1⟩) none).2.2.2.1 name
      "generatorfunction" notAny (by decide) accepted (by decide)
  · exact (builtin_types_partition (.ofJson (.array [.null])) none).2.2.2.2.2 _ rfl

end Registry

end Conform
