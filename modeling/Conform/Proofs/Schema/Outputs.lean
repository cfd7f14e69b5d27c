import Conform.Proofs.Schema.Coercion
import Conform.Proofs.Schema.Places

/-! What a shape puts out: every name of what it checks, then the declared names that it has come by,
each once and with what its schema has made of it. -/

namespace Conform.Schema

/-- What a shape makes of the members of an object. -/
structure Completes (check : Checker) (mode : ShapeMode) (defaults : Option Defaults)
    (fields : Members Schema) (members results : Members Value) : Prop where
  /-- No name is put out twice. -/
  once : results.names.Nodup
  /-- The names that were there come first in their order, also those of undefined values, and others
  follow in the order in which they are declared. -/
  names : ∃ added, results.names = members.names ++ added ∧ added.Sublist fields.names
  /-- A name that was absent is put out exactly if its schema makes something defined of its default;
  where names may be absent, the default has to be defined already. -/
  added : ∀ name, name ∉ members.names → (name ∈ results.names ↔
    ∃ schema made, (name, schema) ∈ fields ∧
      (mode = .sparse → (substitute defaults members name).isUndefined = false) ∧
      check schema (substitute defaults members name) (some (.object members)) = .ok (.ok made) ∧
      made.isUndefined = false)
  /-- A declared name carries what its schema has made of what stands under it. -/
  declared : ∀ name schema, (name, schema) ∈ fields → name ∈ results.names → ∃ made,
    check schema (standing defaults members name) (some (.object members)) = .ok (.ok made) ∧
      results.get? name = some made
  /-- An undeclared name is there if names are free, and then it carries what it held. -/
  undeclared : ∀ name ∈ members.names, name ∉ fields.names →
    mode = .extensible ∧ results.get? name = members.get? name

variable {links : Links} {check : Checker} {mode : ShapeMode} {defaults : Option Defaults}
  {fields : Members Schema} {members results : Members Value} {name : String}

/-- What stands under a name that an object lacks is its default. -/
theorem standing_of_absent (absent : name ∉ members.names) :
    standing defaults members name = substitute defaults members name := by
  rw [standing, Members.get?_of_not_mem absent]

/-- A name that an object lacks is skipped where names may be absent and its default is undefined. -/
theorem skips_iff_of_absent (absent : name ∉ members.names) :
    Skips mode defaults members name ↔
      mode = .sparse ∧ (substitute defaults members name).isUndefined = true := by
  -- What stands under an absent name is the default.
  rw [Skips, candidate_eq_standing, standing_of_absent absent]
  simp [absent]

/-- A declared name that is put out has been examined, and carries what its schema has made of it: it was
there, or else that is defined. -/
theorem ShapeAccepts.examined_of_mem
    (accepts : ShapeAccepts check mode defaults fields members results) {schema : Schema}
    (declared : (name, schema) ∈ fields) (present : name ∈ results.names) :
    ¬ Skips mode defaults members name ∧ ∃ made,
      check schema (standing defaults members name) (some (.object members)) = .ok (.ok made) ∧
      results.get? name = some made ∧ (members.contains name || !made.isUndefined) = true := by
  have held : results.get? name ≠ none := fun nothing =>
    (Members.get?_eq_none_iff results name).1 nothing present
  have examined : ¬ Skips mode defaults members name := fun skips =>
    held (accepts.skipped name skips)
  obtain ⟨made, checked, read⟩ := accepts.examined name schema declared examined
  rw [candidate_eq_standing] at checked
  refine ⟨examined, made, checked, ?_⟩
  -- Something is read there, so it has not been dropped.
  split at read
  · rename_i kept
    exact ⟨read, kept⟩
  · exact absurd read held

/-- A name that was absent is put out if its schema makes something defined of its default. -/
theorem ShapeAccepts.mem_names_iff_of_absent
    (accepts : ShapeAccepts check mode defaults fields members results)
    (absent : name ∉ members.names) :
    name ∈ results.names ↔ ∃ schema made, (name, schema) ∈ fields ∧
      (mode = .sparse → (substitute defaults members name).isUndefined = false) ∧
      check schema (substitute defaults members name) (some (.object members)) = .ok (.ok made) ∧
      made.isUndefined = false := by
  have lacking : members.contains name = false := by
    simpa [← Members.contains_iff] using absent
  constructor
  · intro present
    -- The name is declared, for an undeclared one would have been there before.
    have declared : name ∈ fields.names := by
      by_contra undeclared
      exact absent ((Members.mem_names_congr (accepts.undeclared name undeclared)).1 present)
    obtain ⟨schema, declared⟩ := Members.exists_of_mem_names declared
    obtain ⟨examined, made, checked, _, defined⟩ := accepts.examined_of_mem declared present
    rw [standing_of_absent absent] at checked
    rw [skips_iff_of_absent absent] at examined
    refine ⟨schema, made, declared, fun sparse => ?_, checked, ?_⟩
    · simpa [sparse] using examined
    · simpa [lacking] using defined
  · intro added
    obtain ⟨schema, made, declared, needed, checked, defined⟩ := added
    -- Where names may be absent, the default keeps the name from being skipped.
    have examined : ¬ Skips mode defaults members name := by
      rw [skips_iff_of_absent absent]
      intro skips
      rw [needed skips.1] at skips
      exact Bool.false_ne_true skips.2
    obtain ⟨made', checked', read⟩ := accepts.examined name schema declared examined
    rw [candidate_eq_standing, standing_of_absent absent, checked] at checked'
    cases checked'
    rw [lacking, defined] at read
    exact Members.mem_names (Members.mem_of_get? read)

/-- What a shape accepts completes what it has checked. -/
theorem ShapeAccepts.completes (accepts : ShapeAccepts check mode defaults fields members results) :
    Completes check mode defaults fields members results where
  once := accepts.distinct
  names := accepts.names
  added := fun name absent => accepts.mem_names_iff_of_absent absent
  declared := by
    intro name schema declared present
    obtain ⟨_, made, checked, read, _⟩ := accepts.examined_of_mem declared present
    exact ⟨made, checked, read⟩
  undeclared := by
    intro name present undeclared
    refine ⟨?_, accepts.undeclared name undeclared⟩
    -- A shape that does not leave names free would have refused the name.
    by_contra strict
    exact undeclared (accepts.known strict name present)

/-- A shape that accepts has checked an object, and puts out every name of it in order, followed by
those declared names, in the order of their declaration, of whose defaults their schemas make something
defined; each declared name carries what its schema makes of it, and every other one what it held. -/
theorem shape_output_names {depth : Nat} {label : Label} {guard : Predicate} {value accepted : Value}
    {parent : Option Value} (node : NamesDistinct (.shape label mode guard fields))
    (sound : value.WellFormed)
    (checked : validate links (depth + 1) (.shape label mode guard fields) value parent =
      .ok (.ok accepted)) :
    ∃ members results : Members Value,
      (shape label mode guard fields).effective value parent = .object members ∧
      accepted = .object results ∧
      Completes (validate links depth) mode label.defaults fields members results := by
  -- What is accepted is the result of the check of members, since the guard has let an object in.
  have soundEffective := wellFormed_effective node.defaults sound parent
  have concluded := concludes_of_checkEffective checked
  generalize (shape label mode guard fields).effective value parent = entered at *
  cases concluded with
  | admitted leaf => exact leaf.elim
  | @shape _ _ _ _ members _ _ _ checkedShape =>
    have distinct := ((Value.wellFormed_object members).1 soundEffective).1
    obtain ⟨results, rfl, accepts⟩ := checkShape_eq_ok node.declared distinct checkedShape
    exact ⟨members, results, rfl, rfl, accepts.completes⟩

/-- A menu with a wine unless it has one, a soup that comes with a default of its own, and bread that is
computed as undefined. -/
def menu : Schema :=
  .shape ⟨"menu", some (.fields [("wine", .value (.string "red")),
      ("bread", .compute fun _ => .undefined)])⟩ .extensible (Registry.hasTag .object)
    [("bread", unjudged), ("soup", .scalar ⟨"string", some (.value (.string "leek"))⟩
      (Registry.hasTag .string)), ("cake", unjudged), ("wine", unjudged)]

/-- A menu puts out its wine, what the guest has asked for, the cake that is undefined, and a soup. -/
theorem shape_output_names_menu : ∃ members results : Members Value,
    menu.effective (.object [("guest", .null), ("cake", .undefined)]) none = .object members ∧
      Value.object [("wine", .string "red"), ("guest", .null), ("cake", .undefined),
        ("soup", .string "leek")] = .object results ∧
      Completes (validate [] 1) .extensible menu.label.defaults
        [("bread", unjudged), ("soup", .scalar ⟨"string", some (.value (.string "leek"))⟩
          (Registry.hasTag .string)), ("cake", unjudged), ("wine", unjudged)] members results := by
  -- The names of the menu and of its default are distinct.
  have node : NamesDistinct menu := by
    refine ⟨by simp [declaredNames, menu, Members.names], fun defaults given => ?_⟩
    cases given
    refine .fields (by simp [Members.names]) fun name default among => ?_
    simp only [List.mem_cons, Prod.mk.injEq, List.not_mem_nil, or_false] at among
    rcases among with ⟨_, rfl⟩ | ⟨_, rfl⟩
    · exact .value (Value.wellFormed_string _)
    · exact .compute fun _ => Value.wellFormed_undefined
  have sound : (Value.object [("guest", .null), ("cake", .undefined)]).WellFormed := by
    simp [Value.WellFormed, Value.MembersWellFormed, Members.names]
  -- The run is carried out, so there is something to be put out.
  have checked : validate [] 2 menu (.object [("guest", .null), ("cake", .undefined)]) none =
      .ok (.ok (.object [("wine", .string "red"), ("guest", .null), ("cake", .undefined),
        ("soup", .string "leek")])) := rfl
  exact shape_output_names node sound checked

end Conform.Schema
