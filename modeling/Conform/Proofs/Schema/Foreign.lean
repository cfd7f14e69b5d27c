import Conform.Proofs.Schema.Demands
import Conform.Proofs.Schema.Step

/-! A container refuses whatever it cannot look into, and with the built-in types in one way only. -/

namespace Conform

/-- Whether a value is looked into as what a type names, objects by name or arrays by place. A host
object is not, whatever its class tag. -/
def Value.OpensAs (value : Value) : TypeTag → Prop
  -- Being an object is not enough to have its tag, nor the other way round.
  | .object => ∃ members, value = .object members
  | .array => ∃ items, value = .array items
  | _ => False

/-- A container that is built in a scope, with the tag of what it looks into. The type of that name is
its guard. -/
inductive Scope.Container (scope : Scope) : TypeTag → Schema → Prop where
  | shape {mode fields defaults schema} (built : scope.shape mode fields defaults = .ok schema) :
      Container scope .object schema
  | dict {key item defaults schema} (built : scope.dict key item defaults = .ok schema) :
      Container scope .object schema
  | list {element defaults schema} (built : scope.list element defaults = .ok schema) :
      Container scope .array schema
  | tuple {items defaults schema} (built : scope.tuple items defaults = .ok schema) :
      Container scope .array schema

namespace Schema

/-- A container has a guard and looks into what a tag stands for. -/
inductive Guards (guard : Predicate) : TypeTag → Schema → Prop where
  | shape {label mode fields} : Guards guard .object (.shape label mode guard fields)
  | dict {label key item} : Guards guard .object (.dict label guard key item)
  | list {label element} : Guards guard .array (.list label guard element)
  | tuple {label items} : Guards guard .array (.tuple label guard items)

/-- What a container says of a value that it cannot look into: what its guard says, or its own type if
the guard lets the value in. -/
def refusal (guard : Predicate) (schema : Schema) (value : Value) : Failure :=
  ((guard value none).failure? value schema.label.type true).getD (.ofValue value schema.label.type)

variable {scope : Scope} {tag : TypeTag} {schema : Schema} {value : Value} {parent : Option Value}
  {guard : Predicate}

/-- Containers take their guards from the registry, under the name of what they look into. -/
theorem exists_guards (container : scope.Container tag schema) :
    ∃ guard, scope.registry.get? tag.name = some guard ∧ Guards guard tag schema := by
  -- Building any of them looks up the guard and wraps it up with the parts.
  cases container with
  | shape built | dict built | list built | tuple built =>
    obtain ⟨guard, found, rfl⟩ := bind_pure_eq_ok_iff.1 built
    exact ⟨guard, get?_of_predicate found, by constructor⟩

/-- A verdict that words no failure passes. -/
theorem isPass_of_silent {verdict : Verdict} {expected : String} {fixed : Bool}
    (silent : verdict.failure? value expected fixed = none) : verdict.isPass = true := by
  -- Every verdict but acceptance words a failure.
  cases verdict with
  | pass => rfl
  | fail | reason | detailed => cases silent

/-- A guard that refuses a value has the last word on it. -/
theorem Guards.checkEffective_of_fails (guards : Guards guard tag schema) {failure : Failure}
    (fails : (guard value none).failure? value schema.label.type true = some failure)
    (links : Links) (check : Checker) (parent : Option Value) :
    checkEffective links check schema value parent = .ok (.error (.single failure)) := by
  have judged : judge (guard value none) value schema.label.type true = .error (.single failure) := by
    rw [judge, fails]
  -- Every container asks its guard first.
  cases guards <;> simp only [label] at judged <;> simp only [checkEffective, judged]

/-- A foreign value that the guard lets in is refused plainly. -/
theorem Guards.checkEffective_of_passes (guards : Guards guard tag schema)
    (passes : (guard value none).isPass = true) (foreign : ¬ value.OpensAs tag) (links : Links)
    (check : Checker) (parent : Option Value) :
    checkEffective links check schema value parent = .ok (.error (schema.mismatch value)) := by
  -- The guard does not refuse the value, and it is none of those that can be opened.
  cases guards with
  | shape | dict =>
    cases value with
    | object members => exact absurd ⟨members, rfl⟩ foreign
    | _ => simp only [checkEffective, judge_of_isPass passes]
  | list | tuple =>
    cases value with
    | array items => exact absurd ⟨items, rfl⟩ foreign
    | _ => simp only [checkEffective, judge_of_isPass passes]

/-- What a container cannot look into it refuses with a single failure, before it asks anything else. -/
theorem Guards.checkEffective_foreign (guards : Guards guard tag schema)
    (foreign : ¬ value.OpensAs tag) (links : Links) (check : Checker) (parent : Option Value) :
    checkEffective links check schema value parent =
      .ok (.error (.single (refusal guard schema value))) := by
  unfold refusal
  -- Either the guard sees to the value, or the container does.
  cases worded : (guard value none).failure? value schema.label.type true with
  | some failure => exact guards.checkEffective_of_fails worded links check parent
  | none =>
    exact guards.checkEffective_of_passes (isPass_of_silent worded) foreign links check parent

/-- The built-in types of objects and arrays have no words of their own. So the refusal names the type
of the container, also where the guard takes a host object for what it is not. -/
theorem Guards.refusal_of_builtin (guards : Guards guard tag schema)
    (builtin : Registry.builtin.get? tag.name = some guard) (value : Value) :
    refusal guard schema value = .ofValue value schema.label.type := by
  have known : Registry.builtin.get? tag.name = some (Registry.hasTag tag) := by
    cases guards <;> rfl
  rw [known, Option.some.injEq] at builtin
  subst builtin
  unfold refusal Registry.hasTag
  -- The guard fails plainly, or it passes and the container fails plainly in its stead.
  cases value.tag == tag <;> rfl

/-- A container is no reference, so its type is its own. -/
theorem Guards.type_eq (guards : Guards guard tag schema) (links : Links) :
    schema.type links = schema.label.type := by
  cases guards <;> cases links <;> rfl

/-- Containers refuse foreign values in one way. Whatever is registered as the type of objects or of
arrays, a container refuses with a single failure what it cannot look into, host objects included, and
at no depth does it accept it. If the type is the built-in one, the failure has an empty path and no
reason, tells of the value itself as it stands, and expects the type of the container. -/
theorem containers_refuse_foreign (container : scope.Container tag schema)
    (foreign : ¬ (schema.effective value parent).OpensAs tag) (links : Links) :
    (scope.registry.get? tag.name = Registry.builtin.get? tag.name → ∀ depth,
      validate links (depth + 1) schema value parent =
        .ok (.error (.single {
          data := schema.effective value parent
          path := []
          value := schema.effective value parent
          reason := none
          expected := schema.type links }))) ∧
    (∀ depth, ∃ failure, validate links (depth + 1) schema value parent =
      .ok (.error (.single failure))) ∧
    ∀ depth accepted, validate links depth schema value parent ≠ .ok (.ok accepted) := by
  obtain ⟨guard, registered, guards⟩ := exists_guards container
  have refused : ∀ depth, validate links (depth + 1) schema value parent =
      .ok (.error (.single (refusal guard schema (schema.effective value parent)))) :=
    fun depth => guards.checkEffective_foreign foreign links (validate links depth) parent
  refine ⟨fun builtin depth => ?_, fun depth => ⟨_, refused depth⟩, fun depth accepted => ?_⟩
  · rw [refused depth, guards.refusal_of_builtin (builtin ▸ registered), guards.type_eq]
    rfl
  · -- Without any depth left there is no result at all.
    cases depth with
    | zero => exact nofun
    | succ depth =>
      rw [refused depth]
      exact nofun

/-- A host object whose class tag reads like that of an array. -/
def mask : Value :=
  .host (.tagged "Ar ray" "()" 7)

/-- A registry whose type of objects is everything. -/
def hospitable : Registry :=
  Registry.empty.register "object" fun _ _ => .pass

/-- A list whose default is a mask refuses it although the built-in guard takes it for an array. A
dictionary whose guard takes everything for an object refuses a list of arguments. -/
theorem containers_refuse_foreign_mask :
    (Registry.hasTag .array mask none).isPass = true ∧
      ∃ list dictionary,
        Scope.list ⟨.builtin, []⟩ (.scalar ⟨"any", none⟩ Registry.anything) (some (.value mask)) =
          .ok list ∧
        Scope.dict ⟨hospitable, []⟩ (.custom ⟨"name", none⟩ Registry.anything)
          (.custom ⟨"item", none⟩ Registry.anything) none = .ok dictionary ∧
        list.effective .undefined none = mask ∧
        validate [] 3 list .undefined none =
          .ok (.error (.single ⟨mask, [], mask, none, list.type []⟩)) ∧
        ∀ accepted, validate [] 3 dictionary (.arguments []) none ≠ .ok (.ok accepted) := by
  -- Both containers are built by a scope, and neither value opens as what they ask for.
  have list : Scope.list ⟨.builtin, []⟩ (.scalar ⟨"any", none⟩ Registry.anything)
      (some (.value mask)) = .ok _ := rfl
  have dictionary : Scope.dict ⟨hospitable, []⟩ (.custom ⟨"name", none⟩ Registry.anything)
      (.custom ⟨"item", none⟩ Registry.anything) none = .ok _ := rfl
  refine ⟨rfl, _, _, list, dictionary, rfl, ?_, ?_⟩
  · refine (containers_refuse_foreign (.list list) ?_ []).1 rfl 2
    intro opens
    obtain ⟨items, same⟩ := opens
    cases same
  · refine (containers_refuse_foreign (.dict dictionary) ?_ []).2.2 3
    intro opens
    obtain ⟨members, same⟩ := opens
    cases same

end Schema

end Conform
