import Conform.Proofs.Schema.Demands
import Conform.Proofs.Schema.Registry
import Conform.Proofs.Schema.Step

/-! What a shorthand says about values: some alternative has all its conjuncts hold, or a question mark
lets through what is undefined. -/

namespace Conform

namespace Shorthand

/-- Whether there are question marks and the value passes for undefined. -/
def excuses (registry : Registry) (marks : Nat) (value : Value) (parent : Option Value) : Bool :=
  decide (0 < marks) && registry.accepts "undefined" value parent

/-- Whether a conjunct holds of a value. -/
def Conjunct.holds (registry : Registry) (conjunct : Conjunct) (value : Value)
    (parent : Option Value) : Bool :=
  excuses registry conjunct.marks value parent || registry.accepts conjunct.atom value parent

/-- Whether an alternative holds of a value. -/
def Alternative.holds (registry : Registry) (alternative : Alternative) (value : Value)
    (parent : Option Value) : Bool :=
  excuses registry alternative.marks value parent ||
    alternative.conjuncts.all fun conjunct => conjunct.holds registry value parent

/-- Whether a formula holds of a value. -/
def Formula.holds (registry : Registry) (formula : Formula) (value : Value)
    (parent : Option Value) : Bool :=
  excuses registry formula.marks value parent ||
    formula.alternatives.any fun alternative => alternative.holds registry value parent

end Shorthand

namespace Schema

/-- A schema performs a test: validation that may go as deep as the schema is high gives back the
values that pass as they are, and refuses the others. -/
def Performs (links : Links) (schema : Schema) (test : Value → Option Value → Bool) : Prop :=
  -- The bound says that results are produced, and not only right if there are any.
  ∀ depth value parent, schema.height ≤ depth →
    (test value parent = true → validate links depth schema value parent = .ok (.ok value)) ∧
    (test value parent = false →
      ∃ error, validate links depth schema value parent = .ok (.error error))

variable {links : Links}

/-- Whoever performs a test comes to an outcome about every value. -/
theorem Performs.exists_outcome {schema : Schema} {test : Value → Option Value → Bool}
    (performs : Performs links schema test) {depth : Nat} (high : schema.height ≤ depth)
    (value : Value) (parent : Option Value) :
    ∃ outcome, validate links depth schema value parent = .ok outcome := by
  obtain ⟨accepts, refuses⟩ := performs depth value parent high
  -- The value passes the test, or it fails.
  cases holds : test value parent with
  | true => exact ⟨_, accepts holds⟩
  | false =>
    obtain ⟨error, refused⟩ := refuses holds
    exact ⟨_, refused⟩

/-- A node without a default that may be checked at all is checked as it is. -/
theorem exists_below (links : Links) {schema : Schema} {depth : Nat}
    (defaultFree : schema.defaults = none) (high : 0 < depth) :
    ∃ below, depth = below + 1 ∧ ∀ value parent, validate links depth schema value parent =
      checkEffective links (validate links below) schema value parent := by
  -- The one step that is taken leaves the rest of the depth to the nodes below.
  obtain ⟨below, rfl⟩ := Nat.exists_eq_add_of_le' high
  refine ⟨below, rfl, fun value parent => ?_⟩
  rw [validate, effective_of_defaultFree defaultFree]

/-- A scalar performs the test of its predicate. -/
theorem performs_scalar (name : String) (predicate : Predicate) :
    Performs links (.scalar ⟨name, none⟩ predicate)
      fun value parent => (predicate value parent).isPass := by
  intro depth value parent high
  have free : (Schema.scalar ⟨name, none⟩ predicate).defaults = none := rfl
  -- A scalar is one node high, which leaves room for its step.
  obtain ⟨below, rfl, step⟩ := exists_below links free (Nat.lt_of_lt_of_le (Nat.succ_pos 0) high)
  rw [step, checkEffective]
  constructor
  · intro passes
    rw [judge_of_isPass passes]
  · intro fails
    obtain ⟨failure, _, refused⟩ :=
      exists_failure_of_not_isPass (ne_true_of_eq_false fails) value name true
    exact ⟨_, congrArg Except.ok refused⟩

section Combinations

variable {α : Type} {items : List α} {schemas : List Schema}
  {test : α → Value → Option Value → Bool} {check : Schema → Run Outcome} {value : Value}
  {parent : Option Value}

/-- A union accepts the value if some alternative does, when each accepts or refuses it. -/
theorem firstAccepting_of_decided {passes : α → Bool}
    (decided : List.Forall₂ (fun item schema =>
      (passes item = true → check schema = .ok (.ok value)) ∧
      (passes item = false → ∃ error, check schema = .ok (.error error))) items schemas)
    (first : Option ValidationError) :
    (items.any passes = true → firstAccepting check schemas first = .ok (.ok value)) ∧
    (items.any passes = false →
      ∃ kept, firstAccepting check schemas first = .ok (.error kept)) := by
  -- The first alternative accepts, or the question is left to the others.
  induction decided generalizing first with
  | nil => exact ⟨by simp, fun _ => ⟨first, rfl⟩⟩
  | @cons item schema rest others head _ ih =>
    obtain ⟨accepts, refuses⟩ := head
    cases passed : passes item with
    | true =>
      have run : firstAccepting check (schema :: others) first = .ok (.ok value) := by
        rw [firstAccepting, accepts passed]
        rfl
      exact ⟨fun _ => run, by simp [passed]⟩
    | false =>
      obtain ⟨error, refused⟩ := refuses passed
      have run : firstAccepting check (schema :: others) first =
          firstAccepting check others (first.or (some error)) := by
        rw [firstAccepting, refused]
        rfl
      rw [run, List.any_cons, passed, Bool.false_or]
      exact ih _

/-- Parts in a row give the value back if each does, when each gives it back or refuses it. -/
theorem passThrough_of_decided (check : Schema → Value → Run Outcome) {passes : α → Bool}
    (decided : List.Forall₂ (fun item schema =>
      (passes item = true → check schema value = .ok (.ok value)) ∧
      (passes item = false → ∃ error, check schema value = .ok (.error error))) items schemas) :
    (items.all passes = true → passThrough check schemas value = .ok (.ok value)) ∧
    (items.all passes = false →
      ∃ error, passThrough check schemas value = .ok (.error error)) := by
  -- The first part refuses, or it hands the value on to the others as it is.
  induction decided with
  | nil => exact ⟨fun _ => rfl, by simp⟩
  | @cons item schema rest others head _ ih =>
    obtain ⟨accepts, refuses⟩ := head
    cases passed : passes item with
    | true =>
      have run : passThrough check (schema :: others) value = passThrough check others value := by
        rw [passThrough, accepts passed]
        rfl
      rw [run, List.all_cons, passed, Bool.true_and]
      exact ih
    | false =>
      obtain ⟨error, refused⟩ := refuses passed
      refine ⟨by simp [passed], fun _ => ⟨error, ?_⟩⟩
      rw [passThrough, refused]
      rfl

/-- Schemas that perform tests decide about each value, if validation may go deep enough. -/
theorem decided_of_performs
    (each : List.Forall₂ (fun item schema => Performs links schema (test item)) items schemas)
    {depth : Nat} (high : heightOfAll schemas ≤ depth) (value : Value) (parent : Option Value) :
    List.Forall₂ (fun item schema =>
      (test item value parent = true → validate links depth schema value parent = .ok (.ok value)) ∧
      (test item value parent = false →
        ∃ error, validate links depth schema value parent = .ok (.error error))) items schemas := by
  -- Each schema is at most as high as the highest, and so may go as deep as it has to.
  have reaches : ∀ schema ∈ schemas, schema.height ≤ depth := by
    intro schema among
    exact (height_le_heightOfAll schema among).trans high
  clear high
  induction each with
  | nil => exact .nil
  | cons head _ ih =>
    exact .cons (head depth value parent (reaches _ List.mem_cons_self))
      (ih fun schema among => reaches schema (List.mem_cons_of_mem _ among))

/-- A union passes what one of its alternatives passes. -/
theorem performs_union (type : String)
    (each : List.Forall₂ (fun item schema => Performs links schema (test item)) items schemas) :
    Performs links (.union ⟨type, none⟩ schemas)
      fun value parent => items.any fun item => test item value parent := by
  intro depth value parent high
  have free : (Schema.union ⟨type, none⟩ schemas).defaults = none := rfl
  obtain ⟨below, rfl, step⟩ := exists_below links free (Nat.lt_of_lt_of_le (Nat.succ_pos _) high)
  rw [step, checkEffective]
  -- The alternatives are one node less high than the union, as what is left is less deep.
  have decided := decided_of_performs each (Nat.le_of_succ_le_succ high) value parent
  obtain ⟨accepts, refuses⟩ := firstAccepting_of_decided decided none
  constructor
  · intro passes
    rw [accepts passes]
    rfl
  · intro fails
    obtain ⟨kept, refused⟩ := refuses fails
    rw [refused]
    exact ⟨_, rfl⟩

/-- An intersection passes what all its parts pass. -/
theorem performs_intersection (type : String)
    (each : List.Forall₂ (fun item schema => Performs links schema (test item)) items schemas) :
    Performs links (.intersection ⟨type, none⟩ schemas)
      fun value parent => items.all fun item => test item value parent := by
  intro depth value parent high
  have free : (Schema.intersection ⟨type, none⟩ schemas).defaults = none := rfl
  obtain ⟨below, rfl, step⟩ := exists_below links free (Nat.lt_of_lt_of_le (Nat.succ_pos _) high)
  rw [step, checkEffective]
  -- The parts are one node less high than the intersection, as what is left is less deep.
  have decided := decided_of_performs each (Nat.le_of_succ_le_succ high) value parent
  obtain ⟨accepts, refuses⟩ :=
    passThrough_of_decided (validate links below · · parent) decided
  constructor
  · intro passes
    rw [accepts passes]
    rfl
  · intro fails
    obtain ⟨error, refused⟩ := refuses fails
    rw [refused]
    exact ⟨_, rfl⟩

end Combinations

end Schema

namespace Shorthand

open Schema

variable {links : Links} {scope : Scope} {schema : Schema}

/-- A scalar performs the test of its name. -/
theorem performs_of_scalar {name : String} (built : scope.scalar name none = .ok schema) :
    schema.Performs links (scope.registry.accepts name) := by
  -- The predicate is the one that is registered under the name.
  obtain ⟨predicate, found, rfl⟩ := bind_pure_eq_ok_iff.1 built
  have same : scope.registry.accepts name =
      fun value parent => (predicate value parent).isPass := by
    funext value parent
    rw [Registry.accepts, get?_of_predicate found]
  rw [same]
  exact performs_scalar name predicate

/-- An optional schema passes what it would pass anyway, and what passes for undefined. -/
theorem performs_of_optional {test : Value → Option Value → Bool} {result : Schema}
    (performs : schema.Performs links test) (built : scope.optional schema none = .ok result) :
    result.Performs links fun value parent =>
      test value parent || scope.registry.accepts "undefined" value parent := by
  obtain ⟨undefined, scalar, rfl⟩ := bind_pure_eq_ok_iff.1 built
  -- Making a schema optional is offering the type of what is undefined as a second alternative.
  have either : (Schema.union ⟨scope.joinTypes " | " [schema, undefined], none⟩
      [schema, undefined]).Performs links fun value parent =>
        [test, scope.registry.accepts "undefined"].any fun pick => pick value parent :=
    performs_union _ (.cons performs (.cons (performs_of_scalar scalar) .nil))
  simp only [List.any_cons, List.any_nil, Bool.or_false] at either
  exact either

/-- Question marks excuse what passes for undefined. -/
theorem performs_of_optionals {test : Value → Option Value → Bool} {count : Nat} {result : Schema}
    (performs : schema.Performs links test) (built : optionals scope count schema = .ok result) :
    result.Performs links fun value parent =>
      excuses scope.registry count value parent || test value parent := by
  induction count generalizing result with
  | zero =>
    cases built
    exact performs
  | succ count ih =>
    obtain ⟨inner, fewer, outer⟩ := bind_eq_ok_iff.1 built
    have once := performs_of_optional (ih fewer) outer
    -- Being excused by one question mark or by those before it is being excused.
    have same : (fun value parent => excuses scope.registry (count + 1) value parent ||
        test value parent) = fun value parent =>
        (excuses scope.registry count value parent || test value parent) ||
          scope.registry.accepts "undefined" value parent := by
      funext value parent
      unfold excuses
      cases scope.registry.accepts "undefined" value parent <;> cases test value parent <;> simp
    rw [same]
    exact once

/-- Joined parts perform the test that combines those of the parts. -/
theorem performs_of_joined {α : Type} {combine : List Schema → Option Defaults → Schema}
    {build : α → Option Defaults → Built} {items : List α}
    (test : α → Value → Option Value → Bool) {whole : Value → Option Value → Bool}
    (single : ∀ only, items = [only] → whole = test only)
    (several : ∀ schemas, List.Forall₂ (fun item schema => Performs links schema (test item))
      items schemas → (combine schemas none).Performs links whole)
    (each : ∀ item ∈ items, ∀ schema, build item none = .ok schema →
      schema.Performs links (test item))
    (built : joined combine build none items = .ok schema) : schema.Performs links whole := by
  -- Parts that are combined are built one by one, so each performs its own test.
  have combined : (do return combine (← items.mapM (build · none)) none : Built) = .ok schema →
      schema.Performs links whole := by
    intro built
    obtain ⟨schemas, ran, rfl⟩ := bind_pure_eq_ok_iff.1 built
    refine several schemas (List.forall₂_iff_get.2 ?_)
    obtain ⟨length, related⟩ := List.forall₂_iff_get.1 (mapM_eq_ok_iff.1 ran)
    exact ⟨length, fun place inside insideToo =>
      each _ (List.get_mem items ⟨place, inside⟩) _ (related place inside insideToo)⟩
  match items with
  | [] => exact combined built
  | [only] =>
    rw [single only rfl]
    exact each only List.mem_cons_self schema built
  | first :: next :: more => exact combined built

/-- What a conjunct is built into tests whether it holds. -/
theorem performs_of_conjunct {conjunct : Conjunct} (built : conjunct.build scope none = .ok schema) :
    schema.Performs links (conjunct.holds scope.registry) := by
  -- A conjunct is its name with question marks around it.
  obtain ⟨inner, scalar, outer⟩ := bind_eq_ok_iff.1 built
  exact performs_of_optionals (performs_of_scalar scalar) outer

/-- What an alternative is built into tests whether it holds. -/
theorem performs_of_alternative {alternative : Alternative}
    (built : alternative.build scope none = .ok schema) :
    schema.Performs links (alternative.holds scope.registry) := by
  obtain ⟨inner, parts, outer⟩ := bind_eq_ok_iff.1 built
  -- A single conjunct stands for itself, and tests what an intersection of it alone would.
  refine performs_of_optionals (performs_of_joined (Conjunct.holds scope.registry)
    (fun only same => ?_) (fun schemas each => performs_intersection _ each)
    (fun conjunct _ schema => performs_of_conjunct) parts) outer
  funext value parent
  simp [same]

/-- What a formula is built into tests whether it holds. -/
theorem performs_of_formula {formula : Formula} (built : formula.build scope none = .ok schema) :
    schema.Performs links (formula.holds scope.registry) := by
  obtain ⟨inner, parts, outer⟩ := bind_eq_ok_iff.1 built
  -- A single alternative stands for itself, and tests what a union of it alone would.
  refine performs_of_optionals (performs_of_joined (Alternative.holds scope.registry)
    (fun only same => ?_) (fun schemas each => performs_union _ each)
    (fun alternative _ schema => performs_of_alternative) parts) outer
  funext value parent
  simp [same]

/-- A shorthand without a default can be built exactly if the names in its formula are registered, and
what it is built into gives back the values of which the formula holds and refuses all others. -/
theorem shorthand_means_formula (scope : Scope) (text : String) :
    ((∃ schema, scope.shorthand text.toList none = .ok schema) ↔
      (Formula.ofText text.toList).Registered scope.registry) ∧
    ∀ schema, scope.shorthand text.toList none = .ok schema →
      ∀ links depth value parent, schema.height ≤ depth →
        ((Formula.ofText text.toList).holds scope.registry value parent = true →
          validate links depth schema value parent = .ok (.ok value)) ∧
        ((Formula.ofText text.toList).holds scope.registry value parent = false →
          ∃ error, validate links depth schema value parent = .ok (.error error)) := by
  -- The recursion over the text builds what its formula says.
  refine ⟨exists_shorthand_iff scope text.toList none, fun schema built links => ?_⟩
  rw [shorthand_eq_formula] at built
  exact performs_of_formula built

/-- A question mark behind a conjunct excuses that conjunct alone. -/
theorem shorthand_means_formula_excuse :
    ∃ schema, (Scope.mk Registry.builtin []).shorthand "number | string? & undefined".toList none =
        .ok schema ∧
      validate [] schema.height schema .undefined none = .ok (.ok .undefined) ∧
      ∃ error, validate [] schema.height schema (.string "x") none = .ok (.error error) := by
  -- The names of the text are built-in, and the formula is computed for both values.
  obtain ⟨builds, means⟩ :=
    shorthand_means_formula (Scope.mk Registry.builtin []) "number | string? & undefined"
  have registered : (Formula.ofText "number | string? & undefined".toList).Registered
      Registry.builtin := by
    rw [← Formula.registered_iff]
    decide
  obtain ⟨schema, built⟩ := builds.2 registered
  exact ⟨schema, built, (means schema built [] _ .undefined none le_rfl).1 rfl,
    (means schema built [] _ (.string "x") none le_rfl).2 rfl⟩

end Shorthand

end Conform
