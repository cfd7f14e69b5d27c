import Conform.Proofs.Schema.Filling

/-! A default that is given name by name stands in for a whole object as it does for its members one by
one: a shape makes of what is undefined what it makes of an object without members. -/

namespace Conform

namespace Defaults

variable {mode : ShapeMode} {defaults : Defaults} {declared : List String} {members : Members Value}
  {name : String}

/-- Whether a default is given name by name, for declared names alone: it is an object without undefined
members, or a table whose entries come to something defined, unless they are computed, and then without a
look at the container. -/
inductive Tabulates (declared : List String) : Defaults → Prop where
  | value {members : Members Value} (known : ∀ name ∈ members.names, name ∈ declared)
      (defined : ∀ name value, (name, value) ∈ members → value.isUndefined = false) :
      Tabulates declared (.value (.object members))
  | fields {entries : Members Defaults} (known : ∀ name ∈ entries.names, name ∈ declared)
      -- Computed entries are no part of the whole, so only the others are laid under.
      (literal : ∀ name default, (name, default) ∈ entries → ¬ default.IsComputed →
        (default.resolve none).isUndefined = false)
      (computed : ∀ name rule, (name, .compute rule) ∈ entries →
        ∀ parent other, rule parent = rule other) :
      Tabulates declared (.fields entries)

/-- What a default comes to as a whole: an object that holds under its names something defined, which is
what the default comes to there, while no name depends on the container. -/
structure Lays (defaults : Defaults) (base : Members Value) : Prop where
  resolved : ∀ parent, defaults.resolve parent = .object base
  defined : ∀ name value, base.get? name = some value → value.isUndefined = false
  read : ∀ name value, base.get? name = some value →
    ∀ container, defaults.resolveField name container = value
  -- Also where nothing is held, and a computed entry answers.
  steady : ∀ name container other,
    defaults.resolveField name container = defaults.resolveField name other

/-- A table comes under a name of its own to what its entry comes to. -/
theorem resolveField_of_mem {entries : Members Defaults} {default : Defaults}
    (distinct : entries.names.Nodup) (among : (name, default) ∈ entries) (container : Value) :
    (fields entries).resolveField name container = default.resolve (some container) := by
  simp only [resolveField, Members.get?_of_mem distinct among]

/-- A table lays down what its entries come to, unless they are computed. -/
theorem lays_resolveEntries {entries : Members Defaults} (distinct : entries.names.Nodup)
    (literal : ∀ name default, (name, default) ∈ entries → ¬ default.IsComputed →
      (default.resolve none).isUndefined = false)
    (computed : ∀ name rule, (name, .compute rule) ∈ entries →
      ∀ parent other, rule parent = rule other) :
    (fields entries).Lays (resolveEntries none entries) where
  resolved := fun parent => congrArg Value.object (resolveEntries_eq parent none entries)
  defined := by
    intro name value held
    obtain ⟨default, among, given, rfl⟩ := mem_resolveEntries (Members.mem_of_get? held)
    exact literal name default among given
  read := by
    intro name value held container
    obtain ⟨default, among, given, rfl⟩ := mem_resolveEntries (Members.mem_of_get? held)
    -- What is not computed comes to the same wherever it is asked for.
    rw [resolveField_of_mem distinct among]
    exact resolve_eq_of_not_isComputed (some container) none default given
  steady := by
    intro name container other
    cases found : Members.get? entries name with
    | none => simp only [resolveField, found]
    | some default =>
      have among := Members.mem_of_get? found
      rw [resolveField_of_mem distinct among, resolveField_of_mem distinct among]
      cases default with
      | compute rule => exact computed name rule among _ _
      | value | fields => exact resolve_eq_of_not_isComputed _ _ _ id

/-- A default that is given name by name comes to an object of declared names. -/
theorem Tabulates.exists_lays (tabulates : defaults.Tabulates declared)
    (sound : defaults.WellFormed) :
    ∃ base : Members Value, base.names ⊆ declared ∧ defaults.Lays base := by
  cases tabulates with
  | @value members known defined =>
    -- A default object is read as it is, wherever it is asked for.
    refine ⟨members, known, fun _ => rfl, ?_, ?_, fun _ _ _ => rfl⟩
    · exact fun name value held => defined name value (Members.mem_of_get? held)
    · intro name value held container
      simp [resolveField, Value.get?, Value.object?, held]
  | @fields entries known literal computed =>
    cases sound with
    | fields distinct =>
      have begins := names_resolveEntries_sublist none entries
      exact ⟨_, fun name held => known name (begins.subset held),
        lays_resolveEntries distinct literal computed⟩

/-- Laid under an object without members, a default is what there is. -/
theorem Lays.overlay_nil (lays : defaults.Lays members) :
    mode.overlay defaults [] = if mode = .extensible then members else [] := by
  -- An object without members has nothing to put over the default.
  cases mode with
  | exact | sparse => rfl
  | extensible => simp [ShapeMode.overlay, mergeUnder, lays.resolved, Members.insertAll]

end Defaults

namespace Schema

variable {links : Links} {mode : ShapeMode} {guard : Predicate} {fields : Members Schema}
  {type : String} {defaults : Defaults} {members : Members Value}

/-- A shape comes upon the same in what its default comes to as in what the default makes of an object
without members, if the names of the default are declared. -/
theorem sameStanding_base (lays : defaults.Lays members) (known : members.names ⊆ fields.names)
    (mode : ShapeMode) :
    SameStanding (some defaults) (some defaults) fields members (mode.overlay defaults []) := by
  rw [lays.overlay_nil]
  split
  · -- Laid under, the default is there on both sides.
    exact ⟨fun _ _ => rfl, fun _ _ _ => Iff.rfl, fun _ _ => rfl⟩
  -- Otherwise a name that the default holds reads the same on the other side as its own default, and
  -- one that it does not hold is computed alike on both.
  constructor
  · intro name _
    cases held : members.get? name with
    | none => simp [standing, held, Members.get?, substitute, lays.steady name _ (.object [])]
    | some value =>
      simp [standing, held, Members.get?, lays.defined name value held, substitute,
        lays.read name value held]
  · intro name _ undefined
    -- Nothing undefined is held on either side.
    have absent : members.get? name = none := by
      cases held : members.get? name with
      | none => rfl
      | some value =>
        simp [standing, held, lays.defined name value held] at undefined
    exact Members.mem_names_congr absent
  · exact fun name undeclared => Members.get?_of_not_mem fun held => undeclared (known held)

/-- What a shape checks of what is undefined, if its default comes to an object. -/
theorem effective_shape_undefined (type : String) (lays : defaults.Lays members) (guard : Predicate)
    (fields : Members Schema) (parent : Option Value) :
    (shape ⟨type, some defaults⟩ mode guard fields).effective .undefined parent =
      .object members := by
  -- Whether the default is merged or put in, it is what is left.
  cases mode with
  | exact | sparse => exact lays.resolved parent
  | extensible => simp [effective, label, Schema.defaults, Defaults.mergeUnder, lays.resolved]

/-- What is undefined is checked like an object without members. A shape behind the built-in guard whose
default is given name by name makes of what is undefined, for which the default stands in as a whole, what
it makes of an object without members, whose names are filled in one by one: both are accepted, with the
same members in whatever order, or both are refused, with the same findings in whatever order. -/
theorem undefined_like_empty (builtin : Registry.builtin.get? "object" = some guard)
    (node : NamesDistinct (.shape ⟨type, some defaults⟩ mode guard fields))
    (blind : ∀ name schema, (name, schema) ∈ fields → ParentBlind links schema)
    (tabulates : defaults.Tabulates fields.names) (depth : Nat) (parent other : Option Value) :
    Concur
      (validate links (depth + 1) (.shape ⟨type, some defaults⟩ mode guard fields) .undefined parent)
      (validate links (depth + 1) (.shape ⟨type, some defaults⟩ mode guard fields) (.object [])
        other) := by
  have sound := node.defaults defaults rfl
  obtain ⟨base, known, lays⟩ := tabulates.exists_lays sound
  -- What the default comes to is an object of distinct names, as is what it makes of an empty one.
  have distinct : base.names.Nodup := by
    have soundBase := sound.resolve none
    rw [lays.resolved] at soundBase
    exact ((Value.wellFormed_object base).1 soundBase).1
  have soundEmpty : (Value.object []).WellFormed := by
    simp [Value.WellFormed, Value.MembersWellFormed, Members.names]
  exact (sameStanding_base lays known mode).validate_concur builtin node.declared blind
    (effective_shape_undefined type lays guard fields parent)
    (effective_shape_object type defaults guard fields [] other) distinct
    (sound.nodup_overlay soundEmpty mode)

/-- A kit has a label that is computed, a lamp of so many watts, and a size, all by default, though the
table has them in another order. -/
def kit : Schema :=
  .shape ⟨"kit", some (.fields [("size", .value (.string "small")),
      ("lamp", .fields [("watt", .value (.string "nine")), ("hue", .compute fun _ => .null)]),
      ("label", .compute fun _ => .string "camping")])⟩ .exact (Registry.hasTag .object)
    [("label", wording none),
      ("lamp", .shape ⟨"lamp", none⟩ .exact (Registry.hasTag .object) [("watt", wording none)]),
      ("size", wording none)]

/-- What is undefined makes a kit with its members in the order of the table, and an object without
members makes one with its members in the order of their declaration. -/
theorem undefined_like_empty_kit :
    validate [] 3 kit .undefined none = .ok (.ok (.object [("size", .string "small"),
      ("lamp", .object [("watt", .string "nine")]), ("label", .string "camping")])) ∧
    validate [] 3 kit (.object []) none = .ok (.ok (.object [("label", .string "camping"),
      ("lamp", .object [("watt", .string "nine")]), ("size", .string "small")])) ∧
    Concur (validate [] 3 kit .undefined none) (validate [] 3 kit (.object []) none) := by
  -- The names are distinct throughout the kit and its table.
  have node : NamesDistinct kit := by
    refine ⟨by simp [declaredNames, kit, Members.names], fun defaults given => ?_⟩
    cases given
    refine .fields (by simp [Members.names]) fun name default among => ?_
    simp only [List.mem_cons, Prod.mk.injEq, List.not_mem_nil, or_false] at among
    rcases among with ⟨_, rfl⟩ | ⟨_, rfl⟩ | ⟨_, rfl⟩
    · exact .value (Value.wellFormed_string _)
    · refine .fields (by simp [Members.names]) fun name default among => ?_
      simp only [List.mem_cons, Prod.mk.injEq, List.not_mem_nil, or_false] at among
      rcases among with ⟨_, rfl⟩ | ⟨_, rfl⟩
      · exact .value (Value.wellFormed_string _)
      · exact .compute fun _ => trivial
    · exact .compute fun _ => Value.wellFormed_string _
  refine ⟨rfl, rfl, undefined_like_empty rfl node ?_ (.fields ?_ ?_ ?_) 2 none none⟩
  · -- Neither a text nor the lamp looks at the kit around it.
    intro name schema among
    simp only [List.mem_cons, Prod.mk.injEq, List.not_mem_nil, or_false] at among
    rcases among with ⟨_, rfl⟩ | ⟨_, rfl⟩ | ⟨_, rfl⟩
    · exact parentBlind_wording none
    · intro depth value parent other
      cases depth <;> rfl
    · exact parentBlind_wording none
  · simp [Members.names]
  · -- What is said of the size and of the lamp is defined, and the label is computed.
    intro name default among given
    simp only [List.mem_cons, Prod.mk.injEq, List.not_mem_nil, or_false] at among
    rcases among with ⟨_, rfl⟩ | ⟨_, rfl⟩ | ⟨_, rfl⟩
    · rfl
    · rfl
    · exact absurd trivial given
  · -- The one computed entry does not look at the kit either.
    intro name rule among parent other
    simp only [List.mem_cons, Prod.mk.injEq, reduceCtorEq, and_false, false_or, List.not_mem_nil,
      or_false, Defaults.compute.injEq] at among
    rw [among.2]

end Schema

end Conform
