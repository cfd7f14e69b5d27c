import Conform.Proofs.Schema.Grouping
import Conform.Proofs.Schema.Layout
import Conform.Proofs.Schema.Meaning
import Conform.Schema.Compile

/-! The type of a shorthand is a shorthand again: read back, it gives a schema of the same type that
comes to the same results. -/

namespace Conform.Shorthand

open Schema

/-- Names that all have to hold. -/
def allOf (scope : Scope) (names : List String) (defaults : Option Defaults) : Built :=
  joined scope.intersection scope.scalar defaults names

/-- The names of an alternative, and behind them, for each of its question marks, the name of what is
undefined as an alternative of its own. -/
def Alternative.spread (alternative : Alternative) : List (List String) :=
  alternative.conjuncts.map Conjunct.atom :: List.replicate alternative.marks ["undefined"]

/-- The names of a formula, alternative by alternative, with all question marks written out. -/
def Formula.spread (formula : Formula) : List (List String) :=
  formula.alternatives.flatMap Alternative.spread ++ List.replicate formula.marks ["undefined"]

variable {scope : Scope} {schema : Schema} {alternatives : List (List String)} {names : List String}

/-- A schema spreads over alternatives if it is their union but for groups in it, and the alternative
itself if there is only one. -/
structure Spreads (scope : Scope) (alternatives : List (List String)) (schema : Schema) : Prop where
  grouped : ∃ grouping : Grouping, grouping.build (scope.union · none) = schema ∧
    alternatives.mapM (allOf scope · none) = .ok grouping.members
  single : ∀ only, alternatives = [only] → allOf scope only none = .ok schema

section Spreading

/-- There is something to spread over. -/
theorem Spreads.ne_nil (spreads : Spreads scope alternatives schema) : alternatives ≠ [] := by
  -- A grouping has a member, which has been built from an alternative.
  obtain ⟨grouping, _, ran⟩ := spreads.grouped
  rintro rfl
  exact grouping.members_ne_nil (Except.ok.inj ran).symm

/-- What names are built into spreads over them. -/
theorem spreads_allOf (built : allOf scope names none = .ok schema) :
    Spreads scope [names] schema where
  -- A single schema is a group by itself.
  grouped := by
    refine ⟨.member schema, rfl, mapM_eq_ok_iff.2 (.cons built .nil)⟩
  -- The only alternative is the list of names.
  single := by
    intro only same
    obtain rfl := List.singleton_inj.1 same
    exact built

/-- Making a schema optional adds the name of what is undefined. -/
theorem spreads_optional {result : Schema} (spreads : Spreads scope alternatives schema)
    (built : scope.optional schema none = .ok result) :
    Spreads scope (alternatives ++ [["undefined"]]) result := by
  -- The schema and the type of what is undefined make a new group.
  obtain ⟨undefined, scalar, rfl⟩ := bind_pure_eq_ok_iff.1 built
  obtain ⟨grouping, rfl, ran⟩ := spreads.grouped
  have last : [["undefined"]].mapM (allOf scope · none) = .ok [undefined] :=
    mapM_eq_ok_iff.2 (.cons scalar .nil)
  refine ⟨⟨.group grouping [.member undefined], rfl, mapM_append_of_mapM ran last⟩, fun only same => ?_⟩
  -- There are at least two alternatives.
  have several := congrArg List.length same
  have some := List.length_pos_of_ne_nil spreads.ne_nil
  simp only [List.length_append, List.length_cons, List.length_nil] at several
  omega

/-- Question marks add the name of what is undefined, once each. -/
theorem spreads_optionals {count : Nat} {result : Schema}
    (spreads : Spreads scope alternatives schema)
    (built : optionals scope count schema = .ok result) :
    Spreads scope (alternatives ++ List.replicate count ["undefined"]) result := by
  -- The outermost question mark is built last, and its name stands last as well.
  induction count generalizing result with
  | zero =>
    cases built
    simpa using spreads
  | succ count ih =>
    obtain ⟨inner, fewer, outer⟩ := bind_eq_ok_iff.1 built
    rw [List.replicate_succ', ← List.append_assoc]
    exact spreads_optional (ih fewer) outer

/-- Conjuncts without question marks are built as their names. -/
theorem joined_conjuncts {conjuncts : List Conjunct}
    (unmarked : ∀ conjunct ∈ conjuncts, conjunct.marks = 0) (defaults : Option Defaults) :
    joined scope.intersection (Conjunct.build scope) defaults conjuncts =
      allOf scope (conjuncts.map Conjunct.atom) defaults := by
  -- Without a question mark a conjunct is built as its name is.
  rw [allOf, joined_map]
  refine joined_congr fun conjunct among defaults => ?_
  rw [Conjunct.build, unmarked conjunct among]
  cases scope.scalar conjunct.atom defaults <;> rfl

/-- An alternative whose conjuncts have no question marks spreads over its names. -/
theorem spreads_alternative {alternative : Alternative}
    (unmarked : ∀ conjunct ∈ alternative.conjuncts, conjunct.marks = 0)
    (built : alternative.build scope none = .ok schema) :
    Spreads scope alternative.spread schema := by
  -- The conjuncts are names, and the question marks around them add alternatives.
  obtain ⟨inner, parts, outer⟩ := bind_eq_ok_iff.1 built
  rw [joined_conjuncts unmarked] at parts
  exact spreads_optionals (spreads_allOf parts) outer

/-- Schemas that spread over alternatives can be grouped one beside the other. -/
theorem exists_groupings {listed : List (List (List String))} {schemas : List Schema}
    (each : List.Forall₂ (Spreads scope) listed schemas) :
    ∃ groupings, Grouping.buildAll (scope.union · none) groupings = schemas ∧
      listed.flatten.mapM (allOf scope · none) = .ok (Grouping.membersOfAll groupings) := by
  -- The groupings are lined up, and so are the schemas that are their members.
  induction each with
  | nil => exact ⟨[], rfl, rfl⟩
  | cons head _ ih =>
    obtain ⟨grouping, rfl, ran⟩ := head.grouped
    obtain ⟨groupings, rfl, others⟩ := ih
    exact ⟨grouping :: groupings, rfl, mapM_append_of_mapM ran others⟩

/-- A formula whose conjuncts have no question marks spreads over its alternatives. -/
theorem spreads_formula {formula : Formula} (nonempty : formula.alternatives ≠ [])
    (unmarked : ∀ alternative ∈ formula.alternatives, ∀ conjunct ∈ alternative.conjuncts,
      conjunct.marks = 0)
    (built : formula.build scope none = .ok schema) : Spreads scope formula.spread schema := by
  -- A single alternative stands for itself, and several are a union of what they are built into.
  obtain ⟨inner, joint, outer⟩ := bind_eq_ok_iff.1 built
  refine spreads_optionals ?_ outer
  match listed : formula.alternatives with
  | [] => exact absurd listed nonempty
  | [only] =>
    rw [listed] at joint unmarked
    rw [List.flatMap_singleton]
    exact spreads_alternative (unmarked only List.mem_cons_self) joint
  | first :: next :: more =>
    rw [listed] at joint unmarked
    rw [joined_several] at joint
    obtain ⟨schemas, ran, rfl⟩ := bind_pure_eq_ok_iff.1 joint
    have each : List.Forall₂ (Spreads scope) ((first :: next :: more).map Alternative.spread)
        schemas := by
      refine List.forall₂_map_left_iff.2 (((List.forall₂_and_left _ _).2
        ⟨fun _ among => among, mapM_eq_ok_iff.1 ran⟩).imp fun alternative schema both => ?_)
      exact spreads_alternative (unmarked alternative both.1) both.2
    obtain ⟨groupings, rfl, leaves⟩ := exists_groupings each
    -- The schemas of the alternatives make a group, for there are some.
    cases groupings with
    | nil => cases each
    | cons head tail =>
      refine ⟨⟨.group head tail, rfl, leaves⟩, fun only same => ?_⟩
      have several := congrArg List.length same
      simp [Alternative.spread] at several

end Spreading

section Types

/-- The type of a registered name is the name. -/
theorem type_scalar {name : String} (built : scope.scalar name none = .ok schema) (links : Links) :
    schema.type links = name := by
  -- A scalar is labelled with the name that it has been looked up by.
  obtain ⟨predicate, _, rfl⟩ := bind_pure_eq_ok_iff.1 built
  cases links <;> rfl

/-- The type of names that all have to hold is these names with ampersands between. -/
theorem type_allOf (built : allOf scope names none = .ok schema) :
    (schema.type scope.links).toList = quoteNames names := by
  have combined : (do return scope.intersection (← names.mapM (scope.scalar · none)) none : Built) =
      .ok schema → (schema.type scope.links).toList = quoteNames names := by
    intro built
    obtain ⟨schemas, ran, rfl⟩ := bind_pure_eq_ok_iff.1 built
    -- The types of the parts are the names.
    have types : schemas.map (Schema.type scope.links) = names := by
      refine List.forall₂_eq_eq_eq ▸ List.forall₂_map_left_iff.2 ?_
      exact (mapM_eq_ok_iff.1 ran).flip.imp fun schema name built => type_scalar built scope.links
    show ((Connective.both.build scope schemas none).type scope.links).toList = _
    rw [Grouping.type_build, Scope.joinTypes, types, String.toList_intercalate]
    rfl
  match names with
  | [] => exact combined built
  | [only] =>
    rw [type_scalar built]
    simp [quoteNames, spaced]
  | first :: next :: more => exact combined built

/-- The type of a schema quotes the alternatives that it spreads over. -/
theorem type_of_spreads (spreads : Spreads scope alternatives schema) :
    (schema.type scope.links).toList = quote alternatives := by
  -- What is built of the alternatives, one by one, is what there is in the groups.
  obtain ⟨grouping, rfl, ran⟩ := spreads.grouped
  have types : (grouping.members.map (Schema.type scope.links)).map String.toList =
      alternatives.map quoteNames := by
    refine List.forall₂_eq_eq_eq ▸ ?_
    rw [List.map_map, List.forall₂_map_left_iff, List.forall₂_map_right_iff]
    exact (mapM_eq_ok_iff.1 ran).flip.imp fun schema names built => type_allOf built
  -- Groups do not show in the type.
  have joined : (grouping.build (Connective.either.build scope · none)).type scope.links =
      scope.joinTypes Connective.either.separator grouping.members := grouping.type_grouped
  change ((grouping.build (Connective.either.build scope · none)).type scope.links).toList = _
  rw [joined, Scope.joinTypes, String.toList_intercalate, types]
  rfl

end Types

section Rereading

/-- No question marks change nothing. -/
theorem bind_optionals_zero (built : Built) : (do optionals scope 0 (← built)) = built := by
  cases built <;> rfl

/-- Names that stand for alternatives are built as the union of what they are built into. -/
theorem build_ofNames (scope : Scope) (alternatives : List (List String)) :
    (Formula.ofNames alternatives).build scope none =
      joined scope.union (allOf scope) none alternatives := by
  -- No question mark is written, so every alternative is the intersection of its names.
  have each : ∀ names defaults,
      (Alternative.ofNames names).build scope defaults = allOf scope names defaults := by
    intro names defaults
    have atoms : (names.map fun name => Conjunct.mk name 0).map Conjunct.atom = names := by
      simp [Function.comp_def]
    rw [Alternative.build, Alternative.ofNames, bind_optionals_zero,
      joined_conjuncts (by simp), atoms]
  rw [Formula.build, Formula.ofNames, bind_optionals_zero, joined_map]
  exact joined_congr fun names _ => each names

/-- A schema that spreads over several alternatives comes to what their union comes to. -/
theorem Spreads.sameResults (spreads : Spreads scope alternatives schema) {first next : List String}
    {more : List (List String)} (several : alternatives = first :: next :: more) :
    ∃ reread extra, joined scope.union (allOf scope) none alternatives = .ok reread ∧
      ∀ links, SameResults links extra schema reread := by
  obtain ⟨grouping, rfl, ran⟩ := spreads.grouped
  rw [several] at ran ⊢
  refine ⟨scope.union grouping.members none, ?_⟩
  have built : joined scope.union (allOf scope) none (first :: next :: more) =
      .ok (scope.union grouping.members none) := by
    rw [joined_several, ran]
    rfl
  cases grouping with
  | member schema =>
    -- A schema by itself makes a single alternative.
    cases mapM_eq_ok_iff.1 ran with
    | cons _ tail => cases tail
  | group head tail =>
    exact ⟨Grouping.nestingOfAll (head :: tail), built,
      sameResults_grouped scope .either (head :: tail) none⟩

end Rereading

section Texts

/-- The formula of a text has alternatives. -/
theorem alternatives_ne_nil (text : List Char) : (Formula.ofText text).alternatives ≠ [] := by
  simpa [Formula.ofText] using parts_ne_nil '|' (body text)

/-- A conjunct by itself has no question marks left behind it. -/
theorem marks_of_alone {text : List Char}
    (unmarked : ∀ alternative ∈ (Formula.ofText text).alternatives,
      2 ≤ alternative.conjuncts.length → ∀ conjunct ∈ alternative.conjuncts, conjunct.marks = 0) :
    ∀ alternative ∈ (Formula.ofText text).alternatives, ∀ conjunct ∈ alternative.conjuncts,
      conjunct.marks = 0 := by
  intro alternative among
  obtain ⟨part, _, rfl⟩ := List.mem_map.1 among
  by_cases present : '&' ∈ body part
  · obtain ⟨first, next, more, several⟩ := parts_of_mem present
    exact unmarked _ among (by simp [Alternative.ofText, several])
  · -- The question marks of the whole alternative have been taken off before.
    intro conjunct inside
    rw [Alternative.ofText, parts_of_not_mem present] at inside
    obtain rfl := List.mem_singleton.1 inside
    exact marks_of_unmarked (getLast?_body_ne part)

/-- What a text spells out as names holds no sign and does not end with a question mark. -/
theorem of_mem_atoms {text : List Char} :
    ∀ name ∈ (Formula.ofText text).atoms,
      '|' ∉ name.toList ∧ '&' ∉ name.toList ∧ name.toList.getLast? ≠ some '?' := by
  intro name found
  obtain ⟨alternative, among, found⟩ := List.mem_flatMap.1 found
  obtain ⟨part, present, rfl⟩ := List.mem_map.1 among
  obtain ⟨conjunct, inside, rfl⟩ := List.mem_map.1 found
  obtain ⟨piece, held, rfl⟩ := List.mem_map.1 inside
  obtain ⟨within, noAmpersand⟩ := of_mem_parts held
  -- The name lies within its piece, and that within the part between bars.
  have narrow : body piece ⊆ piece := body_subset piece
  have wide : piece ⊆ part := fun c held => body_subset part (within held)
  simp only [Conjunct.ofText, String.toList_ofList]
  exact ⟨fun bar => (of_mem_parts present).2 (wide (narrow bar)),
    fun ampersand => noAmpersand (narrow ampersand), getLast?_body_ne piece⟩

/-- The name of what is undefined is legible. -/
theorem legible_undefined : Legible "undefined" := by
  refine ⟨⟨?_, ?_⟩, ?_, ?_, ?_⟩ <;> decide

/-- The names that the formula of a text spreads over are legible if registered names have no blanks at
their sides. -/
theorem legible_spread {text : List Char}
    (bare : ∀ name, scope.registry.contains name = true → Trimmed name.toList)
    (registered : (Formula.ofText text).Registered scope.registry) :
    ∀ names ∈ (Formula.ofText text).spread, ∀ name ∈ names, Legible name := by
  have marked : ∀ {count names}, names ∈ List.replicate count ["undefined"] →
      ∀ name ∈ names, Legible name := by
    intro count names among name present
    rw [List.eq_of_mem_replicate among] at present
    obtain rfl := List.mem_singleton.1 present
    exact legible_undefined
  intro names among name present
  rcases List.mem_append.1 among with among | among
  · obtain ⟨alternative, listed, among⟩ := List.mem_flatMap.1 among
    rcases List.mem_cons.1 among with rfl | among
    · -- A name that is spelled out is registered.
      have spelled : name ∈ (Formula.ofText text).atoms :=
        List.mem_flatMap.2 ⟨alternative, listed, present⟩
      obtain ⟨noBar, noAmpersand, unmarked⟩ := of_mem_atoms name spelled
      exact ⟨bare name (registered.1 name spelled), noBar, noAmpersand, unmarked⟩
    · exact marked among name present
  · exact marked among name present

/-- The formula of a text spreads over names, and not over nothing. -/
theorem inhabited_spread (text : List Char) :
    ∀ names ∈ (Formula.ofText text).spread, names ≠ [] := by
  -- An alternative has a name for each of its parts, and a question mark stands for one name.
  have marked : ∀ {count names}, names ∈ List.replicate count ["undefined"] → names ≠ [] := by
    intro count names among
    rw [List.eq_of_mem_replicate among]
    simp
  intro names among
  rcases List.mem_append.1 among with among | among
  · obtain ⟨alternative, listed, among⟩ := List.mem_flatMap.1 among
    rcases List.mem_cons.1 among with rfl | among
    · obtain ⟨part, _, rfl⟩ := List.mem_map.1 listed
      simpa [Alternative.ofText] using parts_ne_nil '&' (body part)
    · exact marked among
  · exact marked among

end Texts

/-- The type of what a shorthand without a default is built into can be read as a shorthand again, if
registered names have no blanks at their sides and no question mark stands behind one of several
conjuncts. What is built then has the same type, and comes to the same outcome about every value,
wherever the first may go as deep as it is high. -/
theorem shorthand_reads_back (scope : Scope) (text : String) {schema : Schema}
    (bare : ∀ name, scope.registry.contains name = true → Trimmed name.toList)
    (built : scope.compile none (.shorthand text) = .ok schema)
    (unmarked : ∀ alternative ∈ (Formula.ofText text.toList).alternatives,
      2 ≤ alternative.conjuncts.length → ∀ conjunct ∈ alternative.conjuncts, conjunct.marks = 0) :
    ∃ reread, scope.compile none (.shorthand (schema.type scope.links)) = .ok reread ∧
      reread.type scope.links = schema.type scope.links ∧
      ∀ links depth value parent, schema.height ≤ depth →
        ∃ outcome, validate links depth schema value parent = .ok outcome ∧
          validate links depth reread value parent = .ok outcome := by
  -- Whatever the text is built into spreads over names, and its type is a quotation of these.
  rw [Scope.compile] at built ⊢
  have registered := (exists_shorthand_iff scope text.toList none).1 ⟨schema, built⟩
  rw [shorthand_eq_formula] at built
  have spreads := spreads_formula (alternatives_ne_nil text.toList) (marks_of_alone unmarked) built
  have rebuilt : scope.shorthand (schema.type scope.links).toList none =
      joined scope.union (allOf scope) none (Formula.ofText text.toList).spread := by
    rw [type_of_spreads spreads, shorthand_eq_formula, ← build_ofNames,
      formula_quote spreads.ne_nil (inhabited_spread text.toList) (legible_spread bare registered)]
  rw [rebuilt]
  -- A schema that performs a test comes to an outcome about every value.
  have ends : ∀ links depth value parent, schema.height ≤ depth →
      ∃ outcome, validate links depth schema value parent = .ok outcome := by
    intro links depth value parent high
    exact (performs_of_formula built).exists_outcome high value parent
  match listed : (Formula.ofText text.toList).spread with
  | [] => exact absurd listed spreads.ne_nil
  | [only] =>
    -- A single alternative is built into the schema itself.
    refine ⟨schema, spreads.single only listed, rfl, fun links depth value parent high => ?_⟩
    obtain ⟨outcome, checked⟩ := ends links depth value parent high
    exact ⟨outcome, checked, checked⟩
  | first :: next :: more =>
    obtain ⟨reread, extra, joint, same⟩ := spreads.sameResults listed
    refine ⟨reread, listed ▸ joint, (same scope.links).type.symm, ?_⟩
    intro links depth value parent high
    obtain ⟨outcome, checked⟩ := ends links depth value parent high
    exact ⟨outcome, checked, (same links).flattened depth value parent outcome checked⟩

/-- A number or a text that may be absent is quoted with its question marks written out. -/
theorem shorthand_reads_back_optional : ∃ schema reread,
    (Scope.mk Registry.builtin []).compile none (.shorthand "number? | string & any?") =
        .ok schema ∧
      schema.type [] = "number | undefined | string & any | undefined" ∧
      (Scope.mk Registry.builtin []).compile none
        (.shorthand "number | undefined | string & any | undefined") = .ok reread ∧
      validate [] schema.height schema (.bool true) none =
        validate [] schema.height reread (.bool true) none := by
  have bare : ∀ name, Registry.builtin.contains name = true → Trimmed name.toList := by
    have all : ∀ name ∈ Registry.builtin.entries.names, Trimmed name.toList := by
      unfold Trimmed
      decide +kernel
    exact fun name registered => all name ((Members.contains_iff _ name).1 registered)
  have built : ∃ schema,
      (Scope.mk Registry.builtin []).compile none (.shorthand "number? | string & any?") =
        .ok schema ∧ schema.type [] = "number | undefined | string & any | undefined" := by
    rw [Scope.compile, shorthand_eq_formula]
    exact ⟨_, rfl, rfl⟩
  obtain ⟨schema, built, type⟩ := built
  -- The last question mark stands behind the whole alternative, and not behind its second conjunct.
  have unmarked : ∀ alternative ∈ (Formula.ofText "number? | string & any?".toList).alternatives,
      2 ≤ alternative.conjuncts.length → ∀ conjunct ∈ alternative.conjuncts, conjunct.marks = 0 := by
    decide
  obtain ⟨reread, rebuilt, _, same⟩ := shorthand_reads_back _ _ bare built unmarked
  obtain ⟨outcome, checked, checkedToo⟩ := same [] schema.height (.bool true) none le_rfl
  rw [type] at rebuilt
  exact ⟨schema, reread, built, type, rebuilt, checked.trans checkedToo.symm⟩

end Conform.Shorthand
