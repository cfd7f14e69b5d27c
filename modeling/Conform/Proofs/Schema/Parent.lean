import Conform.Proofs.Schema.Defaults
import Conform.Proofs.Schema.Step

/-! If nothing asks for the container, validation comes to the same end in all of them. -/

namespace Conform.Schema

/-- Whether a node selects another one by looking at the value. -/
def IsDynamic : Schema → Prop
  | dynamic _ _ => True
  | _ => False

/-- Neither the predicates of a node nor its default look at the container that a value stands in. -/
structure IgnoresParent (node : Schema) : Prop where
  predicates : ∀ predicate ∈ node.predicates, ∀ value parent other,
    predicate value parent = predicate value other
  defaults : ∀ defaults, node.defaults = some defaults → defaults.IgnoresParent

variable {links : Links} {check : Checker} {schema : Schema} {value : Value}

/-- Without a look at the container, the effective value is the same in all of them. -/
theorem IgnoresParent.effective_eq (ignores : schema.IgnoresParent) (value : Value)
    (parent other : Option Value) : schema.effective value parent = schema.effective value other := by
  -- Only a default that replaces the value could ask for the container.
  cases given : schema.defaults with
  | none => rw [effective_of_defaultFree given, effective_of_defaultFree given]
  | some defaults =>
    by_cases merges : schema.Merges
    · rw [effective_of_merges merges given, effective_of_merges merges given]
    · rw [effective_of_not_merges merges given, effective_of_not_merges merges given,
        (ignores.defaults defaults given).resolve_eq parent other]

/-- A step that selects nothing and does not look at the container comes to the same end in all of
them, if the steps that it leads to do. -/
theorem IgnoresParent.checkEffective_eq (ignores : schema.IgnoresParent)
    (static : ¬ IsDynamic schema) (parent other : Option Value)
    (below : ∀ next, Leads links schema next → ∀ value,
      check next value parent = check next value other) :
    checkEffective links check schema value parent =
      checkEffective links check schema value other := by
  -- Containers are checked without a look at where they stand; the others hand the question on.
  cases schema with
  | scalar label predicate | custom label predicate =>
    have same := ignores.predicates predicate (by simp [Schema.predicates]) value parent other
    simp only [checkEffective, same]
  | shape | list | tuple | dict | enumeration | literal | instanceOf => rfl
  | union label alternatives =>
    have same := firstAccepting_congr
      (fun alternative among => below alternative (.alternative among) value) none
    simp only [checkEffective, same]
  | intersection label parts =>
    have same := passThrough_congr (fun part among => below part (.part among)) value
    simp only [checkEffective, same]
  | lazy reference =>
    cases known : links.get? reference with
    | none => simp only [checkEffective, known]
    | some target => simp only [checkEffective, known, below target (.target known)]
  | dynamic => exact absurd trivial static

/-- Where no node that can be reached looks at the container, validation does not depend on it. -/
theorem validate_eq_of_ignoresParent (depth : Nat)
    (ignores : Throughout links IgnoresParent schema)
    (static : Throughout links (fun node => ¬ IsDynamic node) schema) (value : Value)
    (parent other : Option Value) :
    validate links depth schema value parent = validate links depth schema value other := by
  -- Inside a container the parent is that container either way, so only the nodes that hand the
  -- value itself on go deeper.
  induction depth generalizing schema value with
  | zero => rfl
  | succ depth ih =>
    simp only [validate]
    rw [ignores.here.effective_eq value parent other]
    exact ignores.here.checkEffective_eq static.here parent other fun next leads value =>
      ih (ignores.below leads) (static.below leads) value

end Conform.Schema
