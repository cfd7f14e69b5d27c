import Conform.Proofs.Schema.Compilation
import Conform.Proofs.Schema.Registry
import Conform.Schema.Validate

/-! What a description is compiled to depends on the types that it needs alone. -/

namespace Conform

namespace Registry

/-- Two registries agree on a name if it is unknown to both, or if both know it and its types give the
same answers. -/
def Agrees (registry other : Registry) (name : String) : Prop :=
  registry.get? name = none ∧ other.get? name = none ∨
    -- The predicates need not be the same ones, as long as they answer alike.
    ∃ predicate predicate', registry.get? name = some predicate ∧
      other.get? name = some predicate' ∧
      ∀ value parent, predicate value parent = predicate' value parent

/-- Registries that agree on a name find the same under it. -/
theorem Agrees.get?_eq {registry other : Registry} {name : String}
    (agrees : registry.Agrees other name) : registry.get? name = other.get? name := by
  rcases agrees with ⟨unknown, unknownToo⟩ | ⟨predicate, predicate', found, foundToo, same⟩
  · rw [unknown, unknownToo]
  · -- Types that answer every question alike are one type.
    have equal : predicate = predicate' := by
      funext value parent
      exact same value parent
    rw [found, foundToo, equal]

end Registry

namespace Description

/-- The types that a part of a description needs by itself. -/
def Mentions (name : String) : Description → Prop
  | items _ => name = "array"
  | shape _ => name = "object"
  | shorthand text =>
    let formula := Shorthand.Formula.ofText text.toList
    name ∈ formula.atoms ∨ formula.Marked ∧ name = "undefined"
  | value _ => False
  | predicate _ => False
  | node _ => False
  | struct _ _ => False

/-- A description needs the types that its parts need. -/
def Needs (description : Description) (name : String) : Prop :=
  ∃ part, Within part description ∧ part.Mentions name

/-- Each type that an item needs is needed by the list. -/
theorem Needs.item {item : Description} {parts : List Description} {name : String}
    (among : item ∈ parts) (needs : item.Needs name) : (items parts).Needs name := by
  -- A part of an item is a part of the list.
  obtain ⟨part, inside, mentions⟩ := needs
  exact ⟨part, .item among inside, mentions⟩

/-- Each type that a field needs is needed by the shape. -/
theorem Needs.field {item : Description} {fields : Members Description} {declared name : String}
    (among : (declared, item) ∈ fields) (needs : item.Needs name) :
    (shape fields).Needs name := by
  -- A part of a field is a part of the shape.
  obtain ⟨part, inside, mentions⟩ := needs
  exact ⟨part, .field among inside, mentions⟩

/-- The types that a well-formed description needs are registered. -/
theorem WellFormed.registered {registry : Registry} {description : Description}
    (wellFormed : description.WellFormed registry) {name : String}
    (needs : description.Needs name) : registry.contains name = true := by
  obtain ⟨part, inside, mentions⟩ := needs
  have acceptable := wellFormed part inside
  -- Each sort of part is only acceptable with the types that it mentions.
  cases part with
  | items parts => exact mentions ▸ acceptable.2
  | shape fields => exact mentions ▸ acceptable
  | shorthand text =>
    rcases mentions with spelt | ⟨marked, rfl⟩
    · exact acceptable.1 name spelt
    · exact acceptable.2 marked
  | value | predicate | node | struct => exact mentions.elim

end Description

section Agreement

variable {registry other : Registry} {name : String}

/-- Finding the same under a name is looking up the same predicate. -/
theorem predicate_eq (links : Links) (same : registry.get? name = other.get? name) :
    (Scope.mk registry links).predicate name = (Scope.mk other links).predicate name := by
  rw [Scope.predicate, Scope.predicate, same]

/-- Finding the same under a name gives the same scalar. -/
theorem scalar_eq (links : Links) (same : registry.get? name = other.get? name)
    (defaults : Option Defaults) :
    (Scope.mk registry links).scalar name defaults =
      (Scope.mk other links).scalar name defaults := by
  rw [Scope.scalar, Scope.scalar, predicate_eq links same]

namespace Shorthand

/-- Finding the same under the name of what is undefined, if there is a question mark, makes schemas
optional in the same way. -/
theorem optionals_eq (links : Links) {count : Nat}
    (same : 0 < count → registry.get? "undefined" = other.get? "undefined") (schema : Schema) :
    optionals (Scope.mk registry links) count schema =
      optionals (Scope.mk other links) count schema := by
  induction count with
  | zero => rfl
  | succ count ih =>
    have undefined := scalar_eq links (same (Nat.succ_pos count)) none
    -- There is a question mark in any case, so the type of what is undefined is looked up.
    rw [optionals, optionals, ih fun _ => same (Nat.succ_pos count)]
    simp only [Scope.optional, undefined]
    rfl

/-- Finding the same under the names of a conjunct builds the same schema. -/
theorem conjunct_eq (links : Links) {conjunct : Conjunct}
    (same : ∀ name ∈ conjunct.names, registry.get? name = other.get? name)
    (defaults : Option Defaults) :
    conjunct.build (Scope.mk registry links) defaults =
      conjunct.build (Scope.mk other links) defaults := by
  -- The type of what is undefined need not be the same where no question mark asks for it.
  have atom := scalar_eq links (same conjunct.atom (by simp [Conjunct.names])) defaults
  have marks : 0 < conjunct.marks → registry.get? "undefined" = other.get? "undefined" :=
    fun marked => same _ (by simp [Conjunct.names]; omega)
  simp only [Conjunct.build, atom, optionals_eq links marks]

/-- Finding the same under the names of an alternative builds the same schema. -/
theorem alternative_eq (links : Links) {alternative : Alternative}
    (same : ∀ name ∈ alternative.names, registry.get? name = other.get? name)
    (defaults : Option Defaults) :
    alternative.build (Scope.mk registry links) defaults =
      alternative.build (Scope.mk other links) defaults := by
  have marks : 0 < alternative.marks → registry.get? "undefined" = other.get? "undefined" :=
    fun marked => same _ (by simp [Alternative.names]; omega)
  -- The types of the parts are written in the same way, so only the parts have to agree.
  have conjuncts : joined (Scope.mk registry links).intersection
      (Conjunct.build (Scope.mk registry links)) defaults alternative.conjuncts =
      joined (Scope.mk other links).intersection (Conjunct.build (Scope.mk other links)) defaults
        alternative.conjuncts := by
    refine joined_congr fun conjunct among defaults =>
      conjunct_eq links (fun name found => ?_) defaults
    exact same name (List.mem_append_left _ (List.mem_flatMap.2 ⟨conjunct, among, found⟩))
  simp only [Alternative.build, conjuncts, optionals_eq links marks]

/-- Finding the same under the names of a formula builds the same schema. -/
theorem formula_eq (links : Links) {formula : Formula}
    (same : ∀ name ∈ formula.names, registry.get? name = other.get? name)
    (defaults : Option Defaults) :
    formula.build (Scope.mk registry links) defaults =
      formula.build (Scope.mk other links) defaults := by
  have marks : 0 < formula.marks → registry.get? "undefined" = other.get? "undefined" :=
    fun marked => same _ (by simp [Formula.names]; omega)
  -- The types of the alternatives are written in the same way, so only these have to agree.
  have alternatives : joined (Scope.mk registry links).union
      (Alternative.build (Scope.mk registry links)) defaults formula.alternatives =
      joined (Scope.mk other links).union (Alternative.build (Scope.mk other links)) defaults
        formula.alternatives := by
    refine joined_congr fun alternative among defaults =>
      alternative_eq links (fun name found => ?_) defaults
    exact same name (List.mem_append_left _ (List.mem_flatMap.2 ⟨alternative, among, found⟩))
  simp only [Formula.build, alternatives, optionals_eq links marks]

end Shorthand

/-- Finding the same under all names that a description needs compiles it to the same. -/
theorem compile_eq (links : Links) {description : Description}
    (same : ∀ name, description.Needs name → registry.get? name = other.get? name)
    (defaults : Option Defaults) :
    (Scope.mk registry links).compile defaults description =
      (Scope.mk other links).compile defaults description := by
  -- Only the outermost description is given the default, and its parts are compiled without one.
  induction description using Description.holds_of_parts generalizing defaults with
  | shorthand text =>
    rw [Scope.compile, Scope.compile, Shorthand.shorthand_eq_formula,
      Shorthand.shorthand_eq_formula]
    exact Shorthand.formula_eq links
      (fun name found => same name ⟨_, .here, Shorthand.Formula.mem_names.1 found⟩) defaults
  | items parts ih =>
    -- Lists and tuples are guarded by the type of arrays, and the rest is up to the items.
    have array := predicate_eq links (same "array" ⟨_, .here, rfl⟩)
    have each : ∀ item ∈ parts, (Scope.mk registry links).compile none item =
        (Scope.mk other links).compile none item := fun item among =>
      ih item among (fun name needs => same name (needs.item among)) none
    cases parts with
    | nil => rfl
    | cons first others =>
      cases others with
      | nil => simp only [Scope.compile, each first List.mem_cons_self, Scope.list, array]
      | cons next more =>
        rw [Scope.compile_several, Scope.compile_several, mapM_congr each]
        simp only [Scope.tuple, array]
        rfl
  | shape fields ih =>
    have object := predicate_eq links (same "object" ⟨_, .here, rfl⟩)
    rw [Scope.compile, Scope.compile, Scope.compileFields_eq, Scope.compileFields_eq]
    have each : ∀ field ∈ fields,
        (do return (field.1, ← (Scope.mk registry links).compile none field.2)) =
          (do return (field.1, ← (Scope.mk other links).compile none field.2) :
            Except SchemaError (String × Schema)) := by
      intro field declared
      rw [ih field.1 field.2 declared (fun name needs => same name (needs.field declared)) none]
    rw [mapM_congr each]
    simp only [Scope.shape, object]
  | predicate | node | struct | value => rfl

/-- If two registries agree on the types that a description needs, they refuse it with the same error
or compile it to schemas of one kind and one type description that validate alike. And adding types
under new names changes nothing about a description that has been compiled. -/
theorem compile_isolated (registry other : Registry) (links : Links) (defaults : Option Defaults)
    (description : Description) :
    ((∀ name, description.Needs name → registry.Agrees other name) →
      (∃ error, (Scope.mk registry links).compile defaults description = .error error ∧
        (Scope.mk other links).compile defaults description = .error error) ∨
      ∃ schema schema', (Scope.mk registry links).compile defaults description = .ok schema ∧
        (Scope.mk other links).compile defaults description = .ok schema' ∧
        ∀ known, schema.kind known = schema'.kind known ∧ schema.type known = schema'.type known ∧
          ∀ depth value parent, Schema.validate known depth schema value parent =
            Schema.validate known depth schema' value parent) ∧
    ((∀ name, registry.contains name = true → other.contains name = false) →
      ∀ schema, (Scope.mk registry links).compile defaults description = .ok schema →
        (Scope.mk (registry.extend other) links).compile defaults description = .ok schema) := by
  constructor
  · intro agrees
    -- Both compile to one and the same schema, so there is nothing left to tell them apart.
    have same := compile_eq links (fun name needs => (agrees name needs).get?_eq) defaults
    cases built : (Scope.mk registry links).compile defaults description with
    | error error => exact .inl ⟨error, rfl, same ▸ built⟩
    | ok schema =>
      exact .inr ⟨schema, schema, rfl, same ▸ built, fun known => ⟨rfl, rfl, fun _ _ _ => rfl⟩⟩
  · intro fresh schema built
    have wellFormed : description.WellFormed registry :=
      (Description.demands_met_iff registry description).1
        ((Scope.obeys_compile _ defaults description).exists_ok_iff.1 ⟨schema, built⟩)
    -- What the description needs is registered already, so the extension does not bring it.
    have same : ∀ name, description.Needs name →
        registry.get? name = (registry.extend other).get? name := by
      intro name needs
      have absent : other.get? name = none := Option.not_isSome_iff_eq_none.1
        (ne_true_of_eq_false (fresh name (wellFormed.registered needs)))
      rw [Registry.get?_extend, absent, Option.none_or]
    rw [← compile_eq links same, built]

/-- A list of numbers, any of which may be missing. -/
def sparseNumbers : Description :=
  .items [.shorthand "number?"]

/-- A type that no number is of. -/
def oddities : Registry :=
  .ofTypes [("oddity", fun _ _ => .fail)]

/-- The list of numbers needs built-in types alone. -/
theorem wellFormed_sparseNumbers : sparseNumbers.WellFormed Registry.builtin := by
  -- The description demands three types, each of which is registered from the start.
  rw [← Description.demands_met_iff]
  show ∀ demand ∈ [.type "number", .type "undefined", .type "array"],
    Demand.Met Registry.builtin demand
  simp only [List.mem_cons, List.not_mem_nil, or_false]
  intro demand among
  rcases among with rfl | rfl | rfl
  · exact (rfl : Registry.builtin.contains "number" = true)
  · exact (rfl : Registry.builtin.contains "undefined" = true)
  · exact (rfl : Registry.builtin.contains "array" = true)

/-- The type that is added is not a built-in one. -/
theorem oddities_fresh (name : String) (known : Registry.builtin.contains name = true) :
    oddities.contains name = false := by
  -- The only added name is a new one.
  by_contra added
  have only : name = "oddity" := by
    simpa [oddities, Registry.contains, Members.contains_iff, Registry.ofTypes,
      Registry.registerAll, Registry.register, Members.insert, Members.names,
      Registry.empty] using added
  subst only
  exact absurd known (by decide)

/-- Adding the type changes nothing about the types that the list of numbers needs. -/
theorem sparseNumbers_agrees (name : String) (needs : sparseNumbers.Needs name) :
    Registry.builtin.Agrees (Registry.builtin.extend oddities) name := by
  -- The name is registered from the start, and the extension does not replace it.
  have known := wellFormed_sparseNumbers.registered needs
  obtain ⟨predicate, found⟩ := Option.isSome_iff_exists.1 known
  have absent : oddities.get? name = none := Option.not_isSome_iff_eq_none.1
    (ne_true_of_eq_false (oddities_fresh name known))
  refine .inr ⟨predicate, predicate, found, ?_, fun _ _ => rfl⟩
  rw [Registry.get?_extend, absent, Option.none_or]
  exact found

/-- A list of numbers compiles to the same with a type added that it does not need. -/
theorem compile_isolated_oddities : ∃ schema schema',
    (Scope.mk Registry.builtin []).compile none sparseNumbers = .ok schema ∧
      (Scope.mk (Registry.builtin.extend oddities) []).compile none sparseNumbers = .ok schema' ∧
      (∀ depth value parent, Schema.validate [] depth schema value parent =
        Schema.validate [] depth schema' value parent) ∧
      (Scope.mk (Registry.builtin.extend oddities) []).compile none sparseNumbers =
        .ok schema := by
  obtain ⟨alike, _⟩ :=
    compile_isolated Registry.builtin (Registry.builtin.extend oddities) [] none sparseNumbers
  obtain ⟨_, kept⟩ := compile_isolated Registry.builtin oddities [] none sparseNumbers
  rcases alike sparseNumbers_agrees with
    ⟨error, refused, _⟩ | ⟨schema, schema', built, builtToo, same⟩
  · -- The list is well-formed, so it is not refused.
    obtain ⟨schema, built⟩ := (Scope.obeys_compile (Scope.mk Registry.builtin []) none
      sparseNumbers).exists_ok_iff.2
      ((Description.demands_met_iff Registry.builtin sparseNumbers).2 wellFormed_sparseNumbers)
    rw [refused] at built
    cases built
  · exact ⟨schema, schema', built, builtToo, (same []).2.2, kept oddities_fresh schema built⟩

end Agreement

end Conform
