import Conform.Proofs.Schema.Depth
import Conform.Proofs.Schema.Kept
import Conform.Proofs.Schema.Meaning
import Conform.Schema.Factory

/-! A question mark leaves the default to what it stands behind, and the combinator gives it to the union
that it makes. Both come to the same, unless the default itself is refused. -/

namespace Conform

namespace Schema

/-- The type of what is undefined. -/
def undefinedNode : Schema :=
  .scalar ⟨"undefined", none⟩ (Registry.hasTag .undefined)

/-- A union of a schema with the type of what is undefined. -/
def orNothing (type : String) (defaults : Option Defaults) (schema : Schema) : Schema :=
  .union ⟨type, defaults⟩ [schema, undefinedNode]

/-- What comes of offering the type of what is undefined to a value, once something else has been
tried. -/
def offer (type : String) (value : Value) : Run Outcome → Run Outcome
  | .ok (.error error) =>
    -- The undefined type goes by the tag, so an impostor is let through as well.
    .ok (if value.tag = .undefined then .ok value else .error (error.retype type))
  | tried => tried

/-- What comes of a run by offering the type of what is undefined any number of times. -/
inductive Offered (value : Value) (run : Run Outcome) : Run Outcome → Prop where
  | never : Offered value run run
  | again {tried} (type : String) (offered : Offered value run tried) :
      Offered value run (offer type value tried)

/-- Whether a run has come to a refusal. -/
def Refuses (run : Run Outcome) : Prop :=
  ∃ error, run = .ok (.error error)

/-- Schemas that differ in their default alone, which stands in for what is undefined. -/
structure Defaultable (make : Option Defaults → Schema) : Prop where
  given : ∀ defaults, (make defaults).defaults = defaults
  type : ∀ links defaults, (make defaults).type links = (make none).type links
  height : ∀ defaults, (make defaults).height = (make none).height
  -- A merging default would change values that are defined.
  replaces : ∀ defaults, ¬ (make defaults).Merges
  checks : ∀ links check defaults value parent,
    checkEffective links check (make defaults) value parent =
      checkEffective links check (make none) value parent

/-- Behind so many question marks two schemas have the same core, and only in the second of them the core
has a default. -/
inductive DefaultsWithin (default : Value) (core : Schema) : Nat → Schema → Schema → Prop where
  | core {make} (defaultable : Defaultable make) (same : make none = core) :
      DefaultsWithin default core 0 core (make (some (.value default)))
  | optional {marks bare given} (type : String)
      (within : DefaultsWithin default core marks bare given) :
      DefaultsWithin default core (marks + 1) (orNothing type none bare)
        (orNothing type none given)

variable {links : Links} {make : Option Defaults → Schema} {core bare given : Schema} {marks : Nat}
  {default value : Value} {parent : Option Value} {type : String} {run tried : Run Outcome}

section Offers

/-- The type of what is undefined judges by the tag alone. -/
theorem validate_undefinedNode (links : Links) (depth : Nat) (value : Value) (parent : Option Value) :
    validate links (depth + 1) undefinedNode value parent =
      .ok (if value.tag = .undefined then .ok value else .error (undefinedNode.mismatch value)) := by
  -- The type has no default, so it judges the value as it is.
  show Except.ok (judge (.ofBool (value.tag == .undefined)) value "undefined" true) = _
  by_cases passes : value.tag = .undefined
  · rw [if_pos passes, passes]
    rfl
  · rw [if_neg passes, beq_eq_false_iff_ne.2 passes]
    rfl

/-- A union with the type of what is undefined offers it after its first alternative. -/
theorem validate_orNothing (depth : Nat) (type : String) (defaults : Option Defaults)
    (first : Schema) {effective : Value}
    (applied : (orNothing type defaults first).effective value parent = effective) :
    validate links (depth + 1) (orNothing type defaults first) value parent =
      offer type effective (validate links depth first effective parent) := by
  rw [validate, applied, orNothing, checkEffective]
  -- What is undefined is only asked for after a refusal, which takes a step at least.
  rcases checked : validate links depth first effective parent with reason | error | accepted
  · simp only [firstAccepting, checked, offer]
    rfl
  · cases depth with
    | zero => cases checked
    | succ depth =>
      simp only [firstAccepting, checked, offer, validate_undefinedNode]
      by_cases passes : effective.tag = .undefined
      · rw [if_pos passes, if_pos passes]
        rfl
      · rw [if_neg passes, if_neg passes]
        rfl
  · simp only [firstAccepting, checked, offer]
    rfl

/-- Without a default of its own such a union offers it to the value that is given. -/
theorem validate_marked (depth : Nat) (type : String) (first : Schema) (value : Value)
    (parent : Option Value) :
    validate links (depth + 1) (orNothing type none first) value parent =
      offer type value (validate links depth first value parent) :=
  validate_orNothing depth type none first (effective_of_defaultFree rfl value parent)

/-- Offers change nothing about a run that does not refuse. -/
theorem Offered.eq_of_not_refuses (offered : Offered value run tried) (goes : ¬ Refuses run) :
    tried = run := by
  -- An offer is made to a refusal only.
  induction offered with
  | never => rfl
  | again _ _ ih =>
    rw [ih]
    rcases run with reason | error | accepted
    · rfl
    · exact absurd ⟨error, rfl⟩ goes
    · rfl

/-- Offers come to an end exactly if the run before them does. -/
theorem Offered.ends_iff (offered : Offered value run tried) :
    (∃ outcome, tried = .ok outcome) ↔ ∃ outcome, run = .ok outcome := by
  induction offered with
  | never => rfl
  | again _ _ ih =>
    rw [← ih]
    -- An offer changes what a run comes to, and not whether it comes to anything.
    rename_i tried _ _
    rcases tried with reason | error | accepted
    · exact iff_of_false nofun nofun
    · exact iff_of_true ⟨_, rfl⟩ ⟨_, rfl⟩
    · exact iff_of_true ⟨_, rfl⟩ ⟨_, rfl⟩

/-- After a refusal, what passes for undefined is accepted by the next offer. -/
theorem Offered.offer_eq_ok (offered : Offered value run tried) (passes : value.tag = .undefined)
    (refused : Refuses run) : offer type value tried = .ok (.ok value) := by
  -- The refusal is still there, or it has been made up for by an offer before.
  have stands : Refuses tried ∨ tried = .ok (.ok value) := by
    induction offered with
    | never => exact .inl refused
    | again _ _ ih =>
      rcases ih with ⟨error, rfl⟩ | rfl
      · exact .inr (congrArg Except.ok (if_pos passes))
      · exact .inr rfl
  rcases stands with ⟨error, rfl⟩ | rfl
  · exact congrArg Except.ok (if_pos passes)
  · rfl

/-- A value that does not pass for undefined is refused with offers exactly if it is without them. -/
theorem Offered.refuses_iff (offered : Offered value run tried) (fails : value.tag ≠ .undefined) :
    Refuses tried ↔ Refuses run := by
  -- Each offer fails, and puts its type over the refusal.
  induction offered with
  | never => rfl
  | @again tried type _ ih =>
    rw [← ih]
    rcases tried with reason | error | accepted
    · rfl
    · exact iff_of_true ⟨error.retype type, congrArg Except.ok (if_neg fails)⟩ ⟨error, rfl⟩
    · rfl

end Offers

section Within

/-- A default is not asked for by what is defined. -/
theorem Defaultable.validate_of_defined (defaultable : Defaultable make) (default : Defaults)
    (defined : value.isUndefined = false) (depth : Nat) :
    validate links depth (make (some default)) value parent =
      validate links depth (make none) value parent := by
  -- Either schema checks the value itself, and they check it alike.
  cases depth with
  | zero => rfl
  | succ depth =>
    rw [validate, validate, defaultable.checks,
      effective_of_not_merges (defaultable.replaces _) (defaultable.given _),
      effective_of_defaultFree (defaultable.given none), defined]
    rfl

/-- A literal default takes the place of undefined. -/
theorem Defaultable.validate_undefined (defaultable : Defaultable make) (default : Value)
    (depth : Nat) (parent : Option Value) :
    validate links depth (make (some (.value default))) .undefined parent =
      validate links depth (make none) default parent := by
  -- The default is what is checked in the end, by the same check.
  cases depth with
  | zero => rfl
  | succ depth =>
    rw [validate, validate, defaultable.checks,
      effective_of_not_merges (defaultable.replaces _) (defaultable.given _),
      effective_of_defaultFree (defaultable.given none)]
    rfl

namespace DefaultsWithin

variable (within : DefaultsWithin default core marks bare given)

include within

/-- A default within question marks is not seen in the type. -/
theorem type_eq (links : Links) : given.type links = bare.type links := by
  -- The union has a type of its own, and the core that of its description.
  cases within with
  | core defaultable same => exact same ▸ defaultable.type links _
  | optional => cases links <;> rfl

/-- With undefined as a second alternative the types stay the same. -/
theorem joinTypes_eq (scope : Scope) (separator : String) :
    scope.joinTypes separator [given, undefinedNode] =
      scope.joinTypes separator [bare, undefinedNode] := by
  -- The types are joined, whatever the schemas are.
  simp only [Scope.joinTypes, List.map_cons, within.type_eq]

/-- A default within question marks changes nothing for what is defined. -/
theorem validate_of_defined (defined : value.isUndefined = false) (depth : Nat) :
    validate links depth given value parent = validate links depth bare value parent := by
  -- Each question mark hands the value on to what stands before it.
  induction within generalizing depth with
  | core defaultable same => exact same ▸ defaultable.validate_of_defined _ defined depth
  | optional _ _ ih =>
    cases depth with
    | zero => rfl
    | succ depth =>
      rw [validate_marked, validate_marked, ih]

/-- What the question marks make of the default is what comes of the core by offers to the default. -/
theorem offered_default (links : Links) (depth : Nat) (parent : Option Value) :
    Offered default (validate links depth core default parent)
      (validate links (depth + marks) bare default parent) := by
  -- Each question mark takes a step and makes an offer.
  induction within with
  | core => exact .never
  | @optional marks _ _ _ _ ih =>
    rw [← Nat.add_assoc, validate_marked]
    exact ih.again _

/-- What the question marks make of undefined is what comes of the default by offers to undefined. -/
theorem offered_undefined (links : Links) (depth : Nat) (parent : Option Value) :
    Offered .undefined (validate links depth core default parent)
      (validate links (depth + marks) given .undefined parent) := by
  -- At the core undefined is replaced by the default, and around it the offers are made to undefined.
  induction within with
  | core defaultable same =>
    rw [Nat.add_zero, defaultable.validate_undefined, same]
    exact .never
  | @optional marks _ _ _ _ ih =>
    rw [← Nat.add_assoc, validate_marked]
    exact ih.again _

/-- One more offer makes no difference between undefined and the default, unless a default other than
undefined is refused. -/
theorem offer_eq (links : Links) (depth : Nat) (parent : Option Value) (type : String)
    (stands : ¬ (default ≠ .undefined ∧ Refuses (validate links depth core default parent))) :
    offer type .undefined (validate links (depth + marks) given .undefined parent) =
      offer type default (validate links (depth + marks) bare default parent) := by
  have inside := within.offered_undefined links depth parent
  have around := within.offered_default links depth parent
  by_cases refused : Refuses (validate links depth core default parent)
  · -- A default that is refused all the same is undefined itself, and passes for it.
    obtain rfl : default = .undefined := by_contra fun differs => stands ⟨differs, refused⟩
    rw [inside.offer_eq_ok rfl refused, around.offer_eq_ok rfl refused]
  · rw [(inside.again type).eq_of_not_refuses refused, (around.again type).eq_of_not_refuses refused]

/-- A validation that may go no deeper than the question marks does not come to the core. -/
theorem validate_of_shallow {depth : Nat} (shallow : depth ≤ marks) (links : Links) (value : Value)
    (parent : Option Value) :
    validate links depth bare value parent = .error .tooDeep ∧
      validate links depth given value parent = .error .tooDeep := by
  -- Each question mark takes a step, and the core takes one too.
  induction within generalizing depth with
  | core =>
    obtain rfl := Nat.le_zero.1 shallow
    exact ⟨rfl, rfl⟩
  | optional _ _ ih =>
    cases depth with
    | zero => exact ⟨rfl, rfl⟩
    | succ depth =>
      obtain ⟨plain, defaulted⟩ := ih (Nat.le_of_succ_le_succ shallow)
      rw [validate_marked, validate_marked, plain, defaulted]
      exact ⟨rfl, rfl⟩

end DefaultsWithin

end Within

section Roots

variable {schema : Schema} {depth deeper : Nat}

/-- Checks a value that stands in no container, going so deep at most. A struct goes as deep as the limit
for all validations. -/
def validateRootTo (links : Links) (depth : Nat) (schema : Schema) (value : Value) : Run Outcome := do
  return (← validate links depth schema value none).mapError ValidationError.settle

/-- A root is refused exactly if the value is. -/
theorem refuses_validateRootTo_iff :
    Refuses (schema.validateRootTo links depth value) ↔
      Refuses (validate links depth schema value none) := by
  rw [validateRootTo]
  -- Settling an error makes no other outcome of it.
  rcases validate links depth schema value none with reason | error | accepted
  · exact iff_of_false nofun nofun
  · exact iff_of_true ⟨error.settle, rfl⟩ ⟨error, rfl⟩
  · exact iff_of_false nofun nofun

/-- The validation of a root comes to an end exactly if that of the value does. -/
theorem validateRootTo_ends_iff :
    (∃ outcome, schema.validateRootTo links depth value = .ok outcome) ↔
      ∃ outcome, validate links depth schema value none = .ok outcome := by
  -- Settling an error makes no other outcome of it.
  rw [validateRootTo]
  cases validate links depth schema value none with
  | error reason => exact iff_of_false nofun nofun
  | ok outcome => exact iff_of_true ⟨_, rfl⟩ ⟨outcome, rfl⟩

/-- Once a validation comes to an end, more depth does not change whether it refuses. -/
theorem refuses_iff_of_le (more : depth ≤ deeper)
    (ends : ∃ outcome, validate links depth schema value parent = .ok outcome) :
    Refuses (validate links deeper schema value parent) ↔
      Refuses (validate links depth schema value parent) := by
  -- The outcome is the same with more depth.
  obtain ⟨outcome, ended⟩ := ends
  rw [ended, validate_of_le more _ _ _ _ ended]

end Roots

/-- Whether a validation may go deep enough: as deep as the schema is high, or else so deep that it
comes to an end. -/
def DeepEnough (links : Links) (depth : Nat) (schema : Schema) (value : Value) : Prop :=
  schema.height ≤ depth ∨ ∃ outcome, schema.validateRootTo links depth value = .ok outcome

/-- How a default that is left within question marks compares with one that is given to the union around
them: the results are the same, except where undefined is given and the core refuses the default. There
the question marks excuse the default, and the union refuses it, unless it passes for undefined. For a
default that does not, the core refuses it where the core with question marks does. -/
structure Compares (links : Links) (default : Value) (core bare marked offered : Schema) : Prop where
  type : marked.type links = offered.type links
  /-- There are results wherever validation may go as deep as the schemas are high. -/
  ends : ∀ depth value, marked.height ≤ depth →
    ∃ outcome, marked.validateRootTo links depth value = .ok outcome
  endsToo : ∀ depth value, offered.height ≤ depth →
    ∃ outcome, offered.validateRootTo links depth value = .ok outcome
  same : ∀ depth value,
    ¬ (value = .undefined ∧ default ≠ .undefined ∧
      Refuses (core.validateRootTo links depth default)) →
    marked.validateRootTo links depth value = offered.validateRootTo links depth value
  excused : ∀ depth, DeepEnough links depth marked .undefined → default ≠ .undefined →
    Refuses (core.validateRootTo links depth default) →
    marked.validateRootTo links depth .undefined = .ok (.ok .undefined) ∧
    (default.tag = .undefined →
      offered.validateRootTo links depth .undefined = .ok (.ok default)) ∧
    (default.tag ≠ .undefined → Refuses (offered.validateRootTo links depth .undefined))
  -- A value that is not undefined is offered to the core through all question marks alike.
  ordinary : ∀ depth, DeepEnough links depth bare default → default.tag ≠ .undefined →
    (Refuses (core.validateRootTo links depth default) ↔
      Refuses (bare.validateRootTo links depth default))

namespace DefaultsWithin

variable (within : DefaultsWithin default core marks bare given)

/-- With a default of its own a union offers what is undefined to the default, in place of undefined. -/
theorem validate_offered (depth : Nat) (type : String) (default : Value) (bare : Schema)
    (parent : Option Value) :
    validate links (depth + 1) (orNothing type (some (.value default)) bare) .undefined parent =
      offer type default (validate links depth bare default parent) :=
  validate_orNothing depth type (some (.value default)) bare rfl

include within

/-- Where the default is given matters for undefined at most, and there only if the core refuses it. -/
theorem validate_marked_eq_offered (type : String) (depth : Nat) (value : Value)
    (stands : ¬ (value = .undefined ∧ default ≠ .undefined ∧
      Refuses (validate links depth core default none))) :
    validate links depth (orNothing type none given) value none =
      validate links depth (orNothing type (some (.value default)) bare) value none := by
  cases depth with
  | zero => rfl
  | succ depth =>
    by_cases undefined : value = .undefined
    · subst undefined
      rw [validate_marked, validate_offered]
      -- The core is checked with what the question marks and the union have left of the depth.
      rcases Nat.le_total marks depth with deep | shallow
      · obtain ⟨left, rfl⟩ := Nat.exists_eq_add_of_le' deep
        refine within.offer_eq links left none type fun ⟨differs, error, failed⟩ => ?_
        exact stands ⟨rfl, differs, error, validate_of_le (by omega) _ _ _ _ failed⟩
      · rw [(within.validate_of_shallow shallow _ _ _).1,
          (within.validate_of_shallow shallow _ _ _).2]
        rfl
    · -- What is defined is checked as it is on both sides.
      have defined : value.isUndefined = false :=
        Bool.eq_false_iff.2 fun holds => undefined (Value.isUndefined_iff.1 holds)
      have applied : (orNothing type (some (.value default)) bare).effective value none = value := by
        rw [orNothing, effective_of_not_merges id rfl, defined]
        rfl
      rw [validate_marked, within.validate_of_defined defined, validate_orNothing depth _ _ _ applied]

/-- A validation that comes to an end goes deeper than the question marks. -/
theorem lt_of_ends {depth : Nat}
    (ends : (∃ outcome, validate links depth bare value parent = .ok outcome) ∨
      ∃ outcome, validate links depth given value parent = .ok outcome) : marks < depth := by
  -- With no more depth than that both stop, so neither would have ended.
  by_contra shallow
  obtain ⟨plain, defaulted⟩ :=
    within.validate_of_shallow (Nat.le_of_not_lt shallow) links value parent
  rw [plain, defaulted] at ends
  rcases ends with ⟨_, ended⟩ | ⟨_, ended⟩ <;> cases ended

/-- Where the core refuses a default, undefined is made good by the union that leaves the default to the
core, and the default is refused by the union that has it, unless it passes for undefined. -/
theorem validate_excused (type : String) {depth : Nat}
    (refused : Refuses (validate links depth core default none))
    (ends : ∃ outcome,
      validate links depth (orNothing type none given) .undefined none = .ok outcome) :
    validate links depth (orNothing type none given) .undefined none = .ok (.ok .undefined) ∧
      (default.tag = .undefined →
        validate links depth (orNothing type (some (.value default)) bare) .undefined none =
          .ok (.ok default)) ∧
      (default.tag ≠ .undefined →
        Refuses (validate links depth (orNothing type (some (.value default)) bare)
          .undefined none)) := by
  obtain ⟨left, rfl⟩ := Nat.exists_eq_add_of_lt ((within.optional type).lt_of_ends (.inr ends))
  have below : left + 1 ≤ marks + 1 + left + 1 := by omega
  have limit : marks + 1 + left + 1 = left + 1 + marks + 1 := by omega
  have inside := within.offered_undefined links (left + 1) none
  have around := within.offered_default links (left + 1) none
  -- The core has come to an end with the depth that is left, so it refuses the default there too.
  have core : Refuses (validate links (left + 1) core default none) := by
    rw [limit, validate_marked] at ends
    exact (refuses_iff_of_le below ((inside.again type).ends_iff.1 ends)).1 refused
  rw [limit, validate_marked, validate_offered]
  exact ⟨inside.offer_eq_ok rfl core, fun passes => around.offer_eq_ok passes core,
    fun fails => ((around.again type).refuses_iff fails).2 core⟩

/-- Question marks make no difference to whether a default is refused that does not pass for undefined. -/
theorem refuses_default_iff (fails : default.tag ≠ .undefined) {depth : Nat}
    (ends : ∃ outcome, validate links depth bare default none = .ok outcome) :
    Refuses (validate links depth core default none) ↔
      Refuses (validate links depth bare default none) := by
  obtain ⟨left, rfl⟩ := Nat.exists_eq_add_of_le' (within.lt_of_ends (.inl ends)).le
  have around := within.offered_default links left none
  -- The core ends with the depth that the question marks leave it, so more depth changes nothing.
  rw [around.refuses_iff fails, refuses_iff_of_le (Nat.le_add_right left marks)
    (around.ends_iff.1 ends)]

/-- A default changes nothing about how high a schema is. -/
theorem height_eq : given.height = bare.height := by
  -- The core is as high with any default, and each question mark adds the same on both sides.
  induction within with
  | core defaultable same => rw [← same, defaultable.height]
  | optional type _ ih => simp only [orNothing, height, heightOfAll, ih]

/-- Each question mark adds a node on the way down to the core. -/
theorem height_core_le : core.height + marks ≤ bare.height := by
  -- A union is higher than its first alternative.
  induction within with
  | core => exact Nat.le_refl _
  | optional type _ ih =>
    simp only [orNothing, height, heightOfAll]
    omega

/-- If the core comes to an outcome about the default, and with its question marks about every value, so
it does with the default within them. -/
theorem exists_outcome_given {depth : Nat} (high : bare.height ≤ depth)
    (core : ∀ depth, core.height ≤ depth →
      ∃ outcome, validate links depth core default parent = .ok outcome)
    (bare : ∃ outcome, validate links depth bare value parent = .ok outcome) :
    ∃ outcome, validate links depth given value parent = .ok outcome := by
  by_cases undefined : value = .undefined
  · -- What comes of undefined is what comes of the default by offers, with the depth that is left.
    have lower := within.height_core_le
    obtain ⟨left, rfl⟩ := Nat.exists_eq_add_of_le' (show marks ≤ depth by omega)
    rw [undefined, (within.offered_undefined links left parent).ends_iff]
    exact core left (by omega)
  · have defined : value.isUndefined = false :=
      Bool.eq_false_iff.2 fun holds => undefined (Value.isUndefined_iff.1 holds)
    rwa [within.validate_of_defined defined]

omit within in
/-- A default within question marks compares with one that is given to the union around them, if the
schemas without a default come to outcomes. -/
theorem compares (within : DefaultsWithin default core marks bare given) (links : Links)
    (type : String)
    (coreEnds : ∀ depth value, core.height ≤ depth →
      ∃ outcome, validate links depth core value none = .ok outcome)
    (bareEnds : ∀ depth value, bare.height ≤ depth →
      ∃ outcome, validate links depth bare value none = .ok outcome) :
    Compares links default core bare (orNothing type none given)
      (orNothing type (some (.value default)) bare) := by
  have sameHeight := within.height_eq
  -- The question mark offers what is undefined after the core has been tried.
  have ends : ∀ depth value, (orNothing type none given).height ≤ depth →
      ∃ outcome, validate links depth (orNothing type none given) value none = .ok outcome := by
    intro depth value high
    simp only [orNothing, height, heightOfAll] at high
    obtain ⟨left, rfl⟩ := Nat.exists_eq_add_of_le' (show 1 ≤ depth by omega)
    rw [validate_marked, (Offered.never.again type).ends_iff]
    exact within.exists_outcome_given (by omega) (fun depth => coreEnds depth default)
      (bareEnds left value (by omega))
  refine ⟨by cases links <;> rfl, ?_, ?_, ?_, ?_, ?_⟩
  · exact fun depth value high => validateRootTo_ends_iff.2 (ends depth value high)
  · intro depth value high
    simp only [orNothing, height, heightOfAll] at high
    obtain ⟨left, rfl⟩ := Nat.exists_eq_add_of_le' (show 1 ≤ depth by omega)
    -- The union offers what is undefined after the core has been tried on the effective value.
    rw [validateRootTo_ends_iff, validate_orNothing left type _ bare rfl,
      (Offered.never.again type).ends_iff]
    exact bareEnds left _ (by omega)
  · -- Settling errors keeps results the same.
    intro depth value stands
    rw [refuses_validateRootTo_iff] at stands
    rw [validateRootTo, validateRootTo, within.validate_marked_eq_offered type depth value stands]
  · -- The marked union ends, because validation goes deep enough or because it is said to.
    intro depth deep _ refused
    have ended : ∃ outcome,
        validate links depth (orNothing type none given) .undefined none = .ok outcome :=
      deep.elim (ends depth .undefined) validateRootTo_ends_iff.1
    rw [refuses_validateRootTo_iff] at refused ⊢
    obtain ⟨accepts, keeps, refuses⟩ := within.validate_excused type refused ended
    refine ⟨by rw [validateRootTo, accepts]; rfl, fun passes => ?_, refuses⟩
    rw [validateRootTo, keeps passes]
    rfl
  · -- The default is validated to an end with question marks, so it is without them.
    intro depth deep fails
    have ended : ∃ outcome, validate links depth bare default none = .ok outcome :=
      deep.elim (bareEnds depth default) validateRootTo_ends_iff.1
    rw [refuses_validateRootTo_iff, refuses_validateRootTo_iff,
      within.refuses_default_iff fails ended]

end DefaultsWithin

end Schema

namespace Shorthand

open Schema

variable {scope : Scope} {schema : Schema} {text : List Char}

/-- What a text is built into without a default comes to an outcome about every value, if its validation
may go as deep as it is high. -/
theorem exists_outcome_of_shorthand (built : scope.shorthand text none = .ok schema)
    {links : Links} {depth : Nat} (high : schema.height ≤ depth) (value : Value)
    (parent : Option Value) : ∃ outcome, validate links depth schema value parent = .ok outcome := by
  -- It performs the test of the formula that is written in the text.
  rw [shorthand_eq_formula] at built
  exact (performs_of_formula built).exists_outcome high value parent

/-- A name, a union and an intersection can be given any default. -/
theorem exists_defaultable (unmarked : text.getLast? ≠ some '?')
    (built : scope.shorthand text none = .ok schema) :
    ∃ make, Defaultable make ∧ make none = schema ∧
      ∀ defaults, scope.shorthand text defaults = .ok (make defaults) := by
  -- The text holds a bar, or else an ampersand, or else it is a name.
  by_cases bar : '|' ∈ text
  · rw [shorthand_of_bar unmarked bar] at built
    obtain ⟨schemas, ran, rfl⟩ := bind_pure_eq_ok_iff.1 built
    refine ⟨scope.union schemas,
      ⟨fun _ => rfl, ?_, fun _ => rfl, fun _ => id, fun _ _ _ _ _ => rfl⟩, rfl, ?_⟩
    · intro links defaults
      cases links <;> rfl
    · intro defaults
      rw [shorthand_of_bar unmarked bar, ran]
      rfl
  · by_cases ampersand : '&' ∈ text
    · rw [shorthand_of_ampersand unmarked bar ampersand] at built
      obtain ⟨schemas, ran, rfl⟩ := bind_pure_eq_ok_iff.1 built
      refine ⟨scope.intersection schemas,
        ⟨fun _ => rfl, ?_, fun _ => rfl, fun _ => id, fun _ _ _ _ _ => rfl⟩, rfl, ?_⟩
      · intro links defaults
        cases links <;> rfl
      · intro defaults
        rw [shorthand_of_ampersand unmarked bar ampersand, ran]
        rfl
    · rw [shorthand_of_name unmarked bar ampersand] at built
      obtain ⟨predicate, found, rfl⟩ := bind_pure_eq_ok_iff.1 built
      refine ⟨fun defaults => .scalar ⟨String.ofList text, defaults⟩ predicate,
        ⟨fun _ => rfl, ?_, fun _ => rfl, fun _ => id, fun _ _ _ _ _ => rfl⟩, rfl, ?_⟩
      · intro links defaults
        cases links <;> rfl
      · intro defaults
        rw [shorthand_of_name unmarked bar ampersand, Scope.scalar, found]
        rfl

/-- What is made optional is offered the type of what is undefined as its second alternative. -/
theorem optional_eq (undefined : scope.scalar "undefined" none = .ok undefinedNode) (schema : Schema)
    (defaults : Option Defaults) :
    scope.optional schema defaults = .ok (scope.union [schema, undefinedNode] defaults) := by
  -- The type of what is undefined is looked up by its name.
  rw [Scope.optional, undefined]
  rfl

/-- Question marks leave a default where they find it. -/
theorem exists_defaultsWithin {make : Option Defaults → Schema} (defaultable : Defaultable make)
    (undefined : scope.scalar "undefined" none = .ok undefinedNode) (default : Value) (count : Nat) :
    ∃ bare given, optionals scope count (make none) = .ok bare ∧
      optionals scope count (make (some (.value default))) = .ok given ∧
      DefaultsWithin default (make none) count bare given := by
  -- Each question mark puts a union around both schemas, which differ in the default alone.
  induction count with
  | zero => exact ⟨_, _, rfl, rfl, .core defaultable rfl⟩
  | succ count ih =>
    obtain ⟨bare, given, plain, defaulted, within⟩ := ih
    refine ⟨scope.union [bare, undefinedNode] none, scope.union [given, undefinedNode] none,
      ?_, ?_, ?_⟩
    · rw [optionals, plain]
      exact optional_eq undefined bare none
    · rw [optionals, defaulted]
      exact optional_eq undefined given none
    · rw [Scope.union, Scope.union, within.joinTypes_eq]
      exact within.optional _

end Shorthand

namespace Factory

open Schema

variable {factory : Factory} {links : Links} {text : String} {bare : Struct}

/-- The type of what is undefined is found where it is the built-in one. -/
theorem scalar_undefined
    (builtin : factory.registry.get? "undefined" = Registry.builtin.get? "undefined") :
    (factory.scope links).scalar "undefined" none = .ok undefinedNode := by
  -- The name is looked up, and the built-in type is found.
  have held : (factory.scope links).registry.get? "undefined" =
      some (Registry.hasTag .undefined) := builtin.trans rfl
  rw [Scope.scalar, Scope.predicate, held]
  rfl

/-- A shorthand is compiled as it is written. -/
theorem compileWith_shorthand (factory : Factory) (links : Links) (text : String)
    (defaults : Option Defaults) :
    factory.compileWith links (.shorthand text) defaults = (do
      return ⟨.shorthand text, defaults, factory.registry,
        ← (factory.scope links).shorthand text.toList defaults⟩) :=
  rfl

/-- A question mark is put around what the text before it is built to with the default. -/
theorem shorthand_marked {scope : Scope} {defaults : Option Defaults} {given : Schema}
    (undefined : scope.scalar "undefined" none = .ok undefinedNode)
    (inner : scope.shorthand text.toList defaults = .ok given) :
    scope.shorthand (text ++ "?").toList defaults = .ok (scope.union [given, undefinedNode] none) := by
  -- The last character is the question mark, and it is taken off first.
  have ends : (text ++ "?").toList = text.toList ++ ['?'] := by simp
  rw [ends, Shorthand.shorthand_concat, inner]
  exact Shorthand.optional_eq undefined given none

/-- A text with a question mark is compiled to the text before it with a question mark around it. -/
theorem compile_marked (factory : Factory) {given : Schema}
    (undefined : (factory.scope links).scalar "undefined" none = .ok undefinedNode)
    (inner : (factory.scope links).shorthand text.toList factory.defaults = .ok given) :
    factory.compile links (.shorthand (text ++ "?")) =
      .ok ⟨.shorthand (text ++ "?"), factory.defaults, factory.registry,
        (factory.scope links).union [given, undefinedNode] none⟩ := by
  -- The default of the factory goes to what stands before the question mark.
  rw [compile, compileWith_shorthand, shorthand_marked undefined inner]
  rfl

/-- The combinator gives the default to a union around what the text is compiled to without it. -/
theorem make_optional (factory : Factory) {bare : Schema}
    (undefined : (factory.scope links).scalar "undefined" none = .ok undefinedNode)
    (inner : (factory.scope links).shorthand text.toList none = .ok bare) :
    factory.make links (.optional (.shorthand text)) =
      .ok (factory.wrap ((factory.scope links).union [bare, undefinedNode] factory.defaults)) := by
  -- The text is compiled without a default, and the union gets that of the factory.
  have offered : build (factory.scope links) factory.defaults (.optional (.shorthand text)) =
      .ok ((factory.scope links).union [bare, undefinedNode] factory.defaults) := by
    rw [build, Scope.compileOptional, Scope.compile, inner]
    exact Shorthand.optional_eq undefined bare factory.defaults
  rw [make, offered]
  rfl

/-- A text with a question mark behind it, and the combinator for optional values on the text itself, both
with the same literal default, make structs of one type that come to the same results. The one exception
is undefined, where the text without its question marks refuses the default: there the first struct
accepts undefined, and the second refuses the default, or gives it back if the type of what is undefined
accepts it by its tag. -/
theorem question_mark_like_optional
    (builtin : factory.registry.get? "undefined" = Registry.builtin.get? "undefined")
    (compiled : factory.compileWith links (.shorthand text) none = .ok bare) (default : Value) :
    ∃ core marked offered : Struct,
      factory.compileWith links (.shorthand (String.ofList (Shorthand.body text.toList))) none =
        .ok core ∧
      (factory.withDefaults (.value default)).compile links (.shorthand (text ++ "?")) =
        .ok marked ∧
      (factory.withDefaults (.value default)).make links (.optional (.shorthand text)) =
        .ok offered ∧
      ∀ known, Compares known default core.schema bare.schema marked.schema offered.schema := by
  have undefined : (factory.scope links).scalar "undefined" none = .ok undefinedNode :=
    scalar_undefined builtin
  -- The text is its core, which can be given any default, with question marks behind it.
  rw [compileWith_shorthand] at compiled
  obtain ⟨schema, built, rfl⟩ := bind_pure_eq_ok_iff.1 compiled
  have parts := Shorthand.shorthand_eq_optionals (factory.scope links) text.toList
  obtain ⟨core, plain, wrapped⟩ := bind_eq_ok_iff.1 ((parts none).symm.trans built)
  obtain ⟨make, defaultable, rfl, each⟩ :=
    Shorthand.exists_defaultable (Shorthand.getLast?_body_ne text.toList) plain
  obtain ⟨bare, given, bareBuilt, givenBuilt, within⟩ :=
    Shorthand.exists_defaultsWithin defaultable undefined default (Shorthand.marks text.toList)
  obtain rfl : bare = schema := Except.ok.inj (bareBuilt.symm.trans wrapped)
  -- With the default the same question marks are put around the core that has it.
  have inner : (factory.scope links).shorthand text.toList (some (.value default)) = .ok given := by
    rw [parts, each]
    exact givenBuilt
  have coreCompiled : factory.compileWith links
      (.shorthand (String.ofList (Shorthand.body text.toList))) none =
        .ok ⟨.shorthand (String.ofList (Shorthand.body text.toList)), none, factory.registry,
          make none⟩ := by
    rw [compileWith_shorthand, String.toList_ofList, plain]
    rfl
  -- Both structs are made of these schemas by a union with the type of what is undefined.
  have marked := compile_marked (factory.withDefaults (.value default)) undefined inner
  have offered := make_optional (factory.withDefaults (.value default)) undefined built
  refine ⟨_, _, _, coreCompiled, marked, offered, fun known => ?_⟩
  show Compares known default (make none) bare (orNothing _ none given)
    (orNothing _ (some (.value default)) bare)
  rw [within.joinTypes_eq]
  -- Neither the core nor the text has a default, so both come to an outcome about every value.
  exact within.compares known _
    (fun _ value high => Shorthand.exists_outcome_of_shorthand plain high value none)
    (fun _ value high => Shorthand.exists_outcome_of_shorthand built high value none)

/-- The name of a built-in type is compiled to the type, under the default that is given. -/
theorem shorthand_string (defaults : Option Defaults) :
    (builtin.scope []).shorthand "string".toList defaults =
      .ok (.scalar ⟨"string", defaults⟩ (Registry.hasTag .string)) := by
  -- The text holds neither a question mark nor a separator.
  rw [Shorthand.shorthand_of_name (by decide) (by decide) (by decide)]
  rfl

/-- Behind two question marks undefined stays undefined where a text is expected and `true` stands in for
it; the combinator around the inner question mark refuses `true`. -/
theorem question_mark_like_optional_twice : ∃ marked offered : Struct,
    (builtin.withDefaults (.value (.bool true))).compile [] (.shorthand "string??") = .ok marked ∧
      (builtin.withDefaults (.value (.bool true))).make [] (.optional (.shorthand "string?")) =
        .ok offered ∧
      marked.validate [] (.string "a") = offered.validate [] (.string "a") ∧
      marked.validate [] .undefined = .ok (.ok .undefined) ∧
      Refuses (offered.validate [] .undefined) := by
  -- Both structs are made step by step, and then compared.
  have undefined : (builtin.scope []).scalar "undefined" none = .ok undefinedNode :=
    scalar_undefined rfl
  have bare := compile_marked builtin undefined (shorthand_string none)
  have marked := compile_marked (builtin.withDefaults (.value (.bool true))) undefined
    (shorthand_marked undefined (shorthand_string (some (.value (.bool true)))))
  obtain ⟨core, _, offered, coreCompiled, markedCompiled, made, compares⟩ :=
    @question_mark_like_optional builtin [] "string?" _ rfl bare (.bool true)
  have stripped : String.ofList (Shorthand.body "string?".toList) = "string" := by decide
  rw [stripped, compileWith_shorthand, shorthand_string] at coreCompiled
  obtain rfl := Except.ok.inj coreCompiled
  obtain rfl := Except.ok.inj (marked.symm.trans markedCompiled)
  -- The core refuses the default, so this is the exception.
  obtain ⟨accepts, -, refuses⟩ :=
    (compares []).excused depthLimit (.inl (by decide)) nofun ⟨_, rfl⟩
  exact ⟨_, offered, marked, made, (compares []).same depthLimit _ nofun, accepts, refuses nofun⟩

/-- A host object that passes for undefined by its class tag. -/
def impostor : Value :=
  .host (HostObject.tagged "Undefined" "()" 0)

/-- As a default for undefined the impostor is refused where a text is expected. The question mark leaves
undefined as it is, and the combinator gives the impostor back. -/
theorem optional_keeps_impostor : ∃ bare marked offered : Struct,
    builtin.compile [] (.shorthand "string") = .ok bare ∧
      (builtin.withDefaults (.value impostor)).compile [] (.shorthand "string?") = .ok marked ∧
      (builtin.withDefaults (.value impostor)).make [] (.optional (.shorthand "string")) =
        .ok offered ∧
      impostor ≠ .undefined ∧ Refuses (bare.validate [] impostor) ∧
      marked.validate [] .undefined = .ok (.ok .undefined) ∧
      offered.validate [] .undefined = .ok (.ok impostor) := by
  -- The three structs are made step by step, and then they are run.
  have undefined : (builtin.scope []).scalar "undefined" none = .ok undefinedNode :=
    scalar_undefined rfl
  have bare : builtin.compile [] (.shorthand "string") = .ok ⟨.shorthand "string", none,
      builtin.registry, .scalar ⟨"string", none⟩ (Registry.hasTag .string)⟩ := by
    rw [compile, compileWith_shorthand, show builtin.defaults = none from rfl, shorthand_string]
    rfl
  have marked := compile_marked (builtin.withDefaults (.value impostor)) undefined
    (shorthand_string (some (.value impostor)))
  have offered := make_optional (builtin.withDefaults (.value impostor)) undefined
    (shorthand_string none)
  exact ⟨_, _, _, bare, marked, offered, nofun, ⟨_, rfl⟩, rfl, rfl⟩

end Factory

end Conform
