import Mathlib.Data.List.Forall2
import Conform.Proofs.Schema.Kept
import Conform.Proofs.Value.Reordering

/-! Reordering of schemas: the names of shapes may be declared in another order. What a schema checks
in values that differ in order alone then differs in order alone. -/

namespace Conform

open Value (Reordered)

namespace Defaults

/-- Whether what is computed for a default depends on the container at most up to the order of
members. -/
inductive OrderBlind : Defaults → Prop where
  | value {value : Value} : OrderBlind (.value value)
  | compute {rule : Option Value → Value}
      (alike : ∀ parent other, Option.Rel Reordered parent other →
        (rule parent).Reordered (rule other)) : OrderBlind (.compute rule)
  | fields {entries : Members Defaults}
      (each : ∀ name default, (name, default) ∈ entries → OrderBlind default) :
      OrderBlind (.fields entries)

variable {defaults : Defaults}

/-- In containers that differ in order alone, a default comes to values that do. -/
theorem OrderBlind.resolve (blind : defaults.OrderBlind) {parent other : Option Value}
    (parents : Option.Rel Reordered parent other) :
    (defaults.resolve parent).Reordered (defaults.resolve other) := by
  -- Only a rule looks at the container.
  cases blind with
  | value => exact .same _
  | compute alike => exact alike parent other parents
  | fields =>
    rw [resolve_eq_of_not_isComputed parent other _ id]
    exact .same _

/-- In containers that differ in order alone, a default comes to values that do under each name. -/
theorem OrderBlind.resolveField (blind : defaults.OrderBlind) (name : String) {parent other : Value}
    (parents : parent.Reordered other) :
    (defaults.resolveField name parent).Reordered (defaults.resolveField name other) := by
  -- Only an entry of a table may ask for the container.
  cases blind with
  | value | compute => exact .same _
  | @fields entries blind =>
    cases found : Members.get? entries name with
    | none =>
      simp only [Defaults.resolveField, found]
      exact .same _
    | some default =>
      simp only [Defaults.resolveField, found]
      exact (blind name default (Members.mem_of_get? found)).resolve (.some parents)

/-- Laid under values that differ in order alone, a default gives values that do. -/
theorem reordered_mergeUnder (sound : defaults.WellFormed) {own other : Value}
    (soundOwn : own.WellFormed) (values : own.Reordered other) :
    (defaults.mergeUnder own).Reordered (defaults.mergeUnder other) := by
  -- Merging looks at the two sorts of values that it puts together, and otherwise keeps one of them.
  have soundDefault := sound.resolve none
  unfold mergeUnder
  cases values with
  | same => exact .same _
  | array length each => cases defaults.resolve none <;> exact .array length each
  | @object members others distinct names each =>
    have distinctToo := names.nodup_iff.1 distinct
    cases resolved : defaults.resolve none with
    | object base =>
      rw [resolved] at soundDefault
      obtain ⟨distinctBase, _⟩ := (Value.wellFormed_object base).1 soundDefault
      -- Under each name stands what the value has there, or else what the default has.
      refine .of_get? (Members.nodup_insertAll members distinctBase)
        (Members.nodup_insertAll others distinctBase) fun name => ?_
      obtain ⟨_, same, _, read⟩ := (Reordered.object distinct names each).of_object
      cases same
      have held := read name
      rw [Members.get?_insertAll distinct, Members.get?_insertAll distinctToo]
      generalize Members.get? members name = old at held ⊢
      generalize Members.get? others name = new at held ⊢
      cases held with
      | some held => exact .some held
      | none =>
        cases Members.get? base name with
        | none => exact .none
        | some value => exact .some (.same value)
    | _ => exact .object distinct names each

end Defaults

namespace Schema

/-- A schema and what it may be reordered to: the names of shapes may be declared in another order,
and accordingly types may be written differently. Selectors select schemas that differ in this way for
values that differ in order alone. -/
inductive Reordered : Schema → Schema → Prop where
  | scalar {label other : Label} {predicate} (defaults : other.defaults = label.defaults) :
      Reordered (.scalar label predicate) (.scalar other predicate)
  | custom {label other : Label} {predicate} (defaults : other.defaults = label.defaults) :
      Reordered (.custom label predicate) (.custom other predicate)
  -- The type lists the declared names, so it may differ as their order does.
  | shape {label other : Label} {mode guard} {fields others : Members Schema}
      (defaults : other.defaults = label.defaults) (names : fields.names.Perm others.names)
      (each : ∀ name schema schema', fields.get? name = some schema →
        others.get? name = some schema' → Reordered schema schema') :
      Reordered (.shape label mode guard fields) (.shape other mode guard others)
  | list {label other : Label} {guard element element'}
      (defaults : other.defaults = label.defaults) (elements : Reordered element element') :
      Reordered (.list label guard element) (.list other guard element')
  | tuple {label other : Label} {guard items items'} (defaults : other.defaults = label.defaults)
      (each : List.Forall₂ Reordered items items') :
      Reordered (.tuple label guard items) (.tuple other guard items')
  | dict {label other : Label} {guard key key' item item'}
      (defaults : other.defaults = label.defaults) (keys : Reordered key key')
      (items : Reordered item item') :
      Reordered (.dict label guard key item) (.dict other guard key' item')
  | enumeration {label other : Label} {values} (defaults : other.defaults = label.defaults) :
      Reordered (.enumeration label values) (.enumeration other values)
  | union {label other : Label} {alternatives alternatives'}
      (defaults : other.defaults = label.defaults)
      (each : List.Forall₂ Reordered alternatives alternatives') :
      Reordered (.union label alternatives) (.union other alternatives')
  | intersection {label other : Label} {parts parts'} (defaults : other.defaults = label.defaults)
      (each : List.Forall₂ Reordered parts parts') :
      Reordered (.intersection label parts) (.intersection other parts')
  | literal {label other : Label} {expected} (defaults : other.defaults = label.defaults) :
      Reordered (.literal label expected) (.literal other expected)
  | instanceOf {label other : Label} {payload} (defaults : other.defaults = label.defaults) :
      Reordered (.instanceOf label payload) (.instanceOf other payload)
  | lazy (reference : Nat) : Reordered (.lazy reference) (.lazy reference)
  | dynamic {label other : Label} {select select'} (defaults : other.defaults = label.defaults)
      (selected : ∀ value value' parent parent', value.Reordered value' →
        Option.Rel Value.Reordered parent parent' →
        Reordered (select value parent) (select' value' parent')) :
      Reordered (.dynamic label select) (.dynamic other select')

end Schema

/-- References stand for schemas that differ in order alone. -/
def Links.Reordered (links others : Links) : Prop :=
  ∀ reference, Option.Rel Schema.Reordered (links.get? reference) (others.get? reference)

namespace Schema

/-- Neither the predicates of a node nor its default depend on the order of members, except that what
is computed for a default may be ordered differently. -/
structure OrderBlind (node : Schema) : Prop where
  predicates : ∀ predicate ∈ node.predicates, ∀ value value' parent parent',
    value.Reordered value' → Option.Rel Value.Reordered parent parent' →
      (predicate value parent).isPass = (predicate value' parent').isPass
  defaults : ∀ defaults, node.defaults = some defaults → defaults.OrderBlind

section Effective

variable {schema schema' : Schema} {value value' : Value} {parent parent' : Option Value}

/-- Nodes that differ in order alone have the same default. -/
theorem Reordered.defaults_eq (schemas : schema.Reordered schema') :
    schema'.defaults = schema.defaults := by
  -- A reference has no default, and for every other node it is given.
  cases schemas with
  | lazy => rfl
  | _ => assumption

/-- Nodes that differ in order alone lay their defaults under values alike. -/
theorem Reordered.merges_iff (schemas : schema.Reordered schema') :
    schema'.Merges ↔ schema.Merges := by
  cases schemas <;> rfl

/-- The effective values of values that differ in order alone differ in order alone. -/
theorem Reordered.effective (schemas : schema.Reordered schema') (node : NamesDistinct schema)
    (blind : OrderBlind schema) (sound : value.WellFormed) (values : value.Reordered value')
    (parents : Option.Rel Value.Reordered parent parent') :
    (schema.effective value parent).Reordered (schema'.effective value' parent') := by
  cases given : schema.defaults with
  | none =>
    rw [effective_of_defaultFree given, effective_of_defaultFree (schemas.defaults_eq.trans given)]
    exact values
  | some defaults =>
    have given' := schemas.defaults_eq.trans given
    have soundDefault := node.defaults defaults given
    by_cases merges : schema.Merges
    · -- The default is laid under both values.
      rw [effective_of_merges merges given, effective_of_merges (schemas.merges_iff.2 merges) given']
      exact Defaults.reordered_mergeUnder soundDefault sound values
    · rw [effective_of_not_merges merges given,
        effective_of_not_merges (fun merges' => merges (schemas.merges_iff.1 merges')) given',
        values.isUndefined_eq]
      -- The default takes the place of both values or of neither, for they are undefined together.
      split
      · exact (blind.defaults defaults given).resolve parents
      · exact values

end Effective

section Names

variable {mode : ShapeMode} {defaults : Option Defaults} {members members' : Members Value}

/-- What is checked under a name of two objects that differ in order alone differs in order alone. -/
theorem candidate_reordered (blind : ∀ given, defaults = some given → given.OrderBlind)
    (values : (Value.object members).Reordered (.object members')) (name : String) :
    (candidate defaults members name).Reordered (candidate defaults members' name) := by
  obtain ⟨_, same, _, read⟩ := values.of_object
  cases same
  have held := read name
  unfold candidate
  generalize members.get? name = old at held ⊢
  generalize members'.get? name = new at held ⊢
  cases defaults with
  | none =>
    cases held with
    | some held => exact held
    | none => exact .same _
  | some given =>
    have filled := (blind given rfl).resolveField name values
    cases held with
    | none => exact filled
    | @some old new held =>
      -- The default stands in on both sides or on neither.
      simp only [fieldValue, held.isUndefined_eq]
      split
      · exact filled
      · exact held

/-- A name is skipped in both of two objects that differ in order alone, or in neither. -/
theorem skips_iff (blind : ∀ given, defaults = some given → given.OrderBlind)
    (values : (Value.object members).Reordered (.object members')) (name : String) :
    Skips mode defaults members name ↔ Skips mode defaults members' name := by
  -- Both objects hold the name or neither does, and the candidates are undefined together.
  obtain ⟨_, same, names, _⟩ := values.of_object
  cases same
  rw [Skips, Skips, (candidate_reordered blind values name).isUndefined_eq, names.mem_iff]

end Names

end Schema

end Conform
