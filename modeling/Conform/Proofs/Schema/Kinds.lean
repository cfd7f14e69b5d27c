import Conform.Proofs.Schema.Kept

/-! Validation never turns a value of one kind into one of another, so dictionaries keep their keys. -/

namespace Conform

namespace Value

/-- Whether a value may come back changed: what is undefined may be filled in, and the objects and the
arrays are rebuilt. -/
def Changeable : Value → Prop
  | undefined | object _ | array _ => True
  | _ => False

namespace Kept

variable {value accepted : Value}

/-- A value that may not change comes back as it was. -/
theorem eq_of_not_changeable (kept : value.Kept accepted) (fixed : ¬ value.Changeable) :
    accepted = value := by
  -- Every way of being kept but the first starts from a value that may change.
  cases kept with
  | same => rfl
  | object | array | filled => exact absurd trivial fixed

/-- An object comes back as an object. -/
theorem of_object {members : Members Value} (kept : Kept (.object members) accepted) :
    ∃ others, accepted = .object others := by
  -- An object is left alone or gets other members.
  cases kept with
  | same => exact ⟨members, rfl⟩
  | object _ others => exact ⟨others, rfl⟩

/-- An array comes back as an array. -/
theorem of_array {items : List Value} (kept : Kept (.array items) accepted) :
    ∃ others, accepted = .array others := by
  -- An array is left alone or gets other elements.
  cases kept with
  | same => exact ⟨items, rfl⟩
  | array _ others => exact ⟨others, rfl⟩

end Kept

end Value

namespace Schema

variable {links : Links} {check : Checker} {label : Label} {guard : Predicate} {key item : Schema}
  {value accepted : Value} {parent : Option Value}

/-- What a dictionary checks is the value with the default object laid under it. -/
theorem effective_dict (label : Label) (guard : Predicate) (key item : Schema) (value : Value)
    (parent : Option Value) : (dict label guard key item).effective value parent =
      label.defaults.elim value fun defaults => defaults.mergeUnder value := by
  -- A dictionary lays its default under every value.
  unfold effective
  cases given : label.defaults with
  | none => simp [defaults, Schema.label, given]
  | some defaults => simp [Schema.defaults, Schema.label, given]

/-- A dictionary that accepts has checked an object, and has kept its names if no key is changed. -/
theorem Concludes.names_of_dict
    (concluded : Concludes links check (.dict label guard key item) value parent (.ok accepted))
    (sound : value.WellFormed)
    (kept : ∀ parent name result, check key (.string name) parent = .ok (.ok result) →
      result = .string name) :
    ∃ members results : Members Value, value = .object members ∧ accepted = .object results ∧
      members.names.Nodup ∧ results.names = members.names := by
  cases concluded with
  | admitted leaf => exact leaf.elim
  | @dict _ _ _ _ members _ _ _ checked =>
    have distinct : (Members.names members).Nodup := ((Value.wellFormed_object members).1 sound).1
    obtain ⟨results, rfl, each⟩ :=
      (checkDict_eq_ok_iff_of_kept distinct fun name result => kept _ name result).1 checked
    -- Each result stands under the name of the entry that it was made from.
    have sameNames : Members.names results = members.names := names_of_related each
    exact ⟨members, results, rfl, rfl, distinct, sameNames⟩

/-- Whatever the defaults, the predicates and the targets of references: what validation accepts comes
back as it was, unless it is undefined, an object or an array, and an object comes back as an object
and an array as an array. So a dictionary keeps the names of what it checks, which is the value with
the default object under it: they come back in their order, and no two of them fall together. -/
theorem validate_keeps_kind {depth : Nat} {schema : Schema}
    (checked : validate links depth schema value parent = .ok (.ok accepted)) :
    (¬ value.Changeable → accepted = value) ∧
    (∀ members, value = .object members → ∃ others, accepted = .object others) ∧
    (∀ items, value = .array items → ∃ others, accepted = .array others) ∧
    ∀ label guard key item, schema = .dict label guard key item → value.WellFormed →
      (∀ defaults, label.defaults = some defaults → defaults.WellFormed) →
      ∃ members results : Members Value,
        (label.defaults.elim value fun defaults => defaults.mergeUnder value) = .object members ∧
        accepted = .object results ∧ members.names.Nodup ∧ results.names = members.names := by
  have kept : value.Kept accepted := kept_validate checked
  refine ⟨kept.eq_of_not_changeable, ?_, ?_, ?_⟩
  · intro members same
    exact (same ▸ kept).of_object
  · intro items same
    exact (same ▸ kept).of_array
  · intro label guard key item same sound soundDefaults
    subst same
    -- The check of the dictionary takes one step, and its keys are checked one step further on.
    cases depth with
    | zero => cases checked
    | succ depth =>
      have concluded := concludes_of_checkEffective checked
      have ownDefaults : ∀ defaults, (dict label guard key item).defaults = some defaults →
          defaults.WellFormed := soundDefaults
      have soundEffective := wellFormed_effective ownDefaults sound parent
      have keys : ∀ parent name result,
          validate links depth key (.string name) parent = .ok (.ok result) →
          result = .string name :=
        fun _ _ _ checkedKey => (kept_validate checkedKey).of_string
      rw [← effective_dict label guard key item value parent]
      exact concluded.names_of_dict soundEffective keys

/-- Texts under names, of which two are there by default. -/
def badges : Schema :=
  .dict ⟨"dict<string,string>", some (.value (.object [("tone", .string "dark"),
      ("size", .string "small")]))⟩ (Registry.hasTag .object)
    (.scalar ⟨"string", none⟩ (Registry.hasTag .string))
    (.scalar ⟨"string", none⟩ (Registry.hasTag .string))

/-- A dictionary with a default keeps the names of both, each once. -/
theorem validate_keeps_kind_badges :
    ∃ members results : Members Value,
      Defaults.mergeUnder (.value (.object [("tone", .string "dark"), ("size", .string "small")]))
          (.object [("icon", .string "bell"), ("tone", .string "light")]) = .object members ∧
        Value.object [("tone", .string "light"), ("size", .string "small"),
          ("icon", .string "bell")] = .object results ∧
        members.names.Nodup ∧ results.names = members.names := by
  -- The default object comes first, and the badges are put over it.
  have checked : validate [] 2 badges
      (.object [("icon", .string "bell"), ("tone", .string "light")]) none =
      .ok (.ok (.object [("tone", .string "light"), ("size", .string "small"),
        ("icon", .string "bell")])) := rfl
  refine (validate_keeps_kind checked).2.2.2 _ _ _ _ rfl ?_ ?_
  · exact ⟨by simp [Members.names], trivial, trivial, trivial⟩
  · intro defaults given
    cases given
    exact .value ⟨by simp [Members.names], trivial, trivial, trivial⟩

end Schema

end Conform
