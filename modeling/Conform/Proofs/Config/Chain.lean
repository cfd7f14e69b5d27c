import Conform.Config.Basic
import Conform.Proofs.Schema.Registry
import Conform.Proofs.Traversal
import Conform.Standard

/-! A declared type means all checks along the chain of types that it builds on. -/

namespace Conform

/-- A check that a declared type makes itself or takes over from the types that it builds on. -/
inductive TypeCheck where
  /-- The judgement of a type that was there before any was declared. -/
  | registered (predicate : Predicate)
  /-- A pattern, with the name and the message of the type that declares it. -/
  | pattern (name : String) (message : Option String) (written : String)
  /-- A list of values, with the name and the message of the type that declares it. -/
  | oneOf (name : String) (message : Option String) (listed : List Json)

namespace TypeCheck

/-- A value passes a pattern if it is a text in which the pattern occurs, and a list if it equals one
of the values there. -/
def Passes (patterns : PatternLanguage) (value : Value) (parent : Option Value) : TypeCheck → Prop
  | registered predicate => (predicate value parent).isPass = true
  | pattern _ _ written => ∃ text, value = .string text ∧ patterns.occurs written text = true
  -- Values are compared, not their texts: a number may be listed in another way of writing it.
  | oneOf _ _ listed => ∃ literal ∈ listed, (Value.ofJson literal).includes value = true

/-- What is said of a value that does not pass. -/
def refusal (value : Value) (parent : Option Value) : TypeCheck → Verdict
  | registered predicate => predicate value parent
  | pattern name message written =>
    match value with
    | .string _ => .reason (message.getD (name ++ " should match \x60" ++ written ++ "\x60"))
    | _ => .reason (name ++ " should be a string")
  | oneOf name message listed =>
    let texts := listed.map fun literal => (Value.ofJson literal).stringify
    .reason (message.getD (name ++ " should be one of " ++ String.intercalate ", " texts))

/-- The verdict of checks made in turn: that of the first that a value does not pass, and acceptance
if it passes all. -/
inductive Decides (patterns : PatternLanguage) (value : Value) (parent : Option Value) :
    List TypeCheck → Verdict → Prop
  | done : Decides patterns value parent [] .pass
  -- The checks after this one are not asked, so they may say anything.
  | refused {check : TypeCheck} {checks : List TypeCheck}
      (fails : ¬ check.Passes patterns value parent) :
      Decides patterns value parent (check :: checks) (check.refusal value parent)
  | passed {check : TypeCheck} {checks : List TypeCheck} {verdict : Verdict}
      (passes : check.Passes patterns value parent)
      (rest : Decides patterns value parent checks verdict) :
      Decides patterns value parent (check :: checks) verdict

variable {patterns : PatternLanguage} {value : Value} {parent : Option Value}

/-- What a check says of a value that does not pass is no acceptance. -/
theorem isPass_refusal {check : TypeCheck} (fails : ¬ check.Passes patterns value parent) :
    (check.refusal value parent).isPass = false := by
  -- A declared check refuses with words, and a registered one with its own verdict.
  cases check with
  | registered predicate =>
    show (predicate value parent).isPass = false
    exact Bool.eq_false_iff.2 fails
  | pattern name message written => cases value <;> rfl
  | oneOf name message listed => rfl

namespace Decides

variable {checks others : List TypeCheck} {verdict next : Verdict}

/-- A single check decides by what it says. -/
theorem single {check : TypeCheck} (accepts : check.Passes patterns value parent → verdict = .pass)
    (refuses : ¬ check.Passes patterns value parent → verdict = check.refusal value parent) :
    Decides patterns value parent [check] verdict := by
  -- There is nothing else to decide about.
  by_cases passes : check.Passes patterns value parent
  · rw [accepts passes]
    exact .passed passes .done
  · rw [refuses passes]
    exact .refused passes

/-- The verdict accepts exactly if all checks pass. -/
theorem isPass_iff (decides : Decides patterns value parent checks verdict) :
    verdict.isPass = true ↔ ∀ check ∈ checks, check.Passes patterns value parent := by
  -- A check that refuses leaves its verdict, and one that passes leaves the decision to the rest.
  induction decides with
  | done => simp [Verdict.isPass]
  | refused fails => simp [isPass_refusal fails, fails]
  | passed passes rest ih => simp [ih, passes]

/-- The verdict of checks of which one fails is that of the first to fail. -/
theorem eq_refusal {passed skipped : List TypeCheck} {failed : TypeCheck}
    (decides : Decides patterns value parent (passed ++ failed :: skipped) verdict)
    (each : ∀ check ∈ passed, check.Passes patterns value parent)
    (fails : ¬ failed.Passes patterns value parent) : verdict = failed.refusal value parent := by
  -- The checks before the failing one are passed one by one.
  induction passed with
  | nil =>
    cases decides with
    | refused => rfl
    | passed passes => exact absurd passes fails
  | cons check checks ih =>
    cases decides with
    | refused refuses => exact absurd (each check (by simp)) refuses
    | passed passes rest => exact ih rest fun other among => each other (by simp [among])

/-- Further checks are made only if the verdict so far accepts. -/
theorem andThen (decides : Decides patterns value parent checks verdict)
    (decidesNext : Decides patterns value parent others next) :
    Decides patterns value parent (checks ++ others) (verdict.andThen next) := by
  induction decides with
  | done => exact decidesNext
  | @refused check _ fails =>
    -- The refusal stands, whatever would have been checked next.
    have stands : (check.refusal value parent).andThen next = check.refusal value parent := by
      simp [Verdict.andThen, isPass_refusal fails]
    rw [stands]
    exact .refused fails
  | passed passes rest ih => exact .passed passes ih

end Decides

end TypeCheck

namespace TypeRule

variable {patterns : PatternLanguage} {value : Value} {parent : Option Value}

/-- The judgement of a pattern decides whether the value is a text in which the pattern occurs. -/
theorem decides_judgePattern {rule : TypeRule} {written : String}
    (declared : rule.pattern = some (written, patterns.occurs written)) :
    TypeCheck.Decides patterns value parent [.pattern rule.name rule.message written]
      (rule.judgePattern value) := by
  apply TypeCheck.Decides.single
  · intro passed
    obtain ⟨text, rfl, occurs⟩ := passed
    simp [judgePattern, declared, occurs]
  · intro fails
    -- A text is refused for what is not in it, and every other value for being no text.
    cases value with
    | string text =>
      have absent : patterns.occurs written text = false := by simpa [TypeCheck.Passes] using fails
      simp [judgePattern, declared, absent, TypeCheck.refusal]
    | _ => simp [judgePattern, declared, TypeCheck.refusal]

/-- The judgement of a list decides whether the value equals one of those listed. -/
theorem decides_judgeOneOf {rule : TypeRule} {listed : List Json}
    (declared : rule.oneOf = some (listed.map .ofJson)) :
    TypeCheck.Decides patterns value parent [.oneOf rule.name rule.message listed]
      (rule.judgeOneOf value) := by
  -- The check lists the documents, and the rule lists their values.
  have passes : (TypeCheck.oneOf rule.name rule.message listed).Passes patterns value parent ↔
      ((listed.map Value.ofJson).any fun literal => literal.includes value) = true := by
    simp [TypeCheck.Passes]
  apply TypeCheck.Decides.single
  · intro passed
    rw [judgeOneOf, declared]
    exact if_pos (passes.1 passed)
  · intro fails
    rw [passes] at fails
    simp only [judgeOneOf, declared, if_neg fails, TypeCheck.refusal, List.map_map]
    rfl

end TypeRule

namespace TypeSpec

variable {patterns : PatternLanguage}

/-- The checks that a declared type makes itself, in their order. -/
def checks (name : String) (spec : TypeSpec) : List TypeCheck :=
  (spec.pattern.map (TypeCheck.pattern name spec.message)).toList ++
    (spec.oneOf.map (TypeCheck.oneOf name spec.message)).toList

/-- A rule has the name and the message of its type, what the base is registered as, the pattern with
its meaning, and the listed values. -/
theorem rule_eq_ok {spec : TypeSpec} {name : String} {scope : Registry} {rule : TypeRule}
    (made : spec.rule patterns name scope = .ok rule) :
    rule.name = name ∧ rule.message = spec.message ∧
      rule.oneOf = (spec.oneOf.map fun documents => documents.map .ofJson) ∧
      Option.Rel (fun below predicate => scope.get? below = some predicate) spec.base rule.base ∧
      rule.pattern = (spec.pattern.map fun written => (written, patterns.occurs written)) := by
  obtain ⟨below, written, oneOf, message⟩ := spec
  unfold TypeSpec.rule at made
  split at made
  · cases made
  · simp only [bind_eq_ok_iff, option_mapM_eq_ok_iff, Pure.pure, Except.pure,
      Except.ok.injEq] at made
    obtain ⟨base, looked, pattern, read, rfl⟩ := made
    refine ⟨rfl, rfl, rfl, ?_, ?_⟩
    · cases looked with
      | none => exact .none
      | some found =>
        -- Where the scope has no such name, there is no rule.
        split at found
        · rename_i known
          cases found
          exact .some known
        · cases found
    · cases read with
      | none => rfl
      | some found =>
        -- Nor is there one for what is written and is no pattern.
        split at found
        · cases found
          rfl
        · cases found

/-- A rule decides by the checks of its base, if any, and then by its own. -/
theorem decides_predicate {spec : TypeSpec} {name : String} {scope : Registry} {rule : TypeRule}
    {inherited : List TypeCheck} {value : Value} {parent : Option Value}
    (made : spec.rule patterns name scope = .ok rule)
    (base : TypeCheck.Decides patterns value parent inherited (rule.judgeBase value parent)) :
    TypeCheck.Decides patterns value parent (inherited ++ spec.checks name)
      (rule.predicate value parent) := by
  obtain ⟨rfl, sameMessage, sameList, -, samePattern⟩ := rule_eq_ok made
  obtain ⟨below, written, listed, message⟩ := spec
  subst sameMessage
  -- The base comes first, and what the type does not declare is not asked for.
  refine base.andThen (.andThen ?_ ?_)
  · cases written with
    | none =>
      have accepts : rule.judgePattern value = .pass := by
        simp [TypeRule.judgePattern, samePattern]
      exact accepts ▸ .done
    | some written => exact TypeRule.decides_judgePattern samePattern
  · cases listed with
    | none =>
      have accepts : rule.judgeOneOf value = .pass := by simp [TypeRule.judgeOneOf, sameList]
      exact accepts ▸ .done
    | some documents => exact TypeRule.decides_judgeOneOf sameList

end TypeSpec

namespace Config

variable {patterns : PatternLanguage} {base : Registry}

/-- The chain of a type declared after others: the types that it builds on, from the first of them up
to itself, and the type of the registry below them, if there is one. A base names the type declared
earlier, or else one of the registry. -/
inductive Chain (base : Registry) : Members TypeSpec → String × TypeSpec →
    List (String × TypeSpec) → Option Predicate → Prop
  | free {earlier : Members TypeSpec} {name : String} {spec : TypeSpec} (bare : spec.base = none) :
      Chain base earlier (name, spec) [(name, spec)] none
  -- The name must not be declared before, or the declared type would be meant.
  | registered {earlier : Members TypeSpec} {name below : String} {spec : TypeSpec}
      {predicate : Predicate} (builds : spec.base = some below) (absent : below ∉ earlier.names)
      (known : base.get? below = some predicate) :
      Chain base earlier (name, spec) [(name, spec)] (some predicate)
  -- Names are declared once, so whatever stands between is not meant.
  | declared {earlier between : Members TypeSpec} {name below : String} {spec other : TypeSpec}
      {chain : List (String × TypeSpec)} {foundation : Option Predicate}
      (builds : spec.base = some below)
      (follows : Chain base earlier (below, other) chain foundation) :
      Chain base (earlier ++ (below, other) :: between) (name, spec) (chain ++ [(name, spec)])
        foundation

/-- Among types of distinct names there is one chain to follow. -/
theorem Chain.unique {earlier : Members TypeSpec} {type : String × TypeSpec}
    {chain chain' : List (String × TypeSpec)} {foundation foundation' : Option Predicate}
    (distinct : earlier.names.Nodup) (first : Chain base earlier type chain foundation)
    (second : Chain base earlier type chain' foundation') :
    chain' = chain ∧ foundation' = foundation := by
  -- At each step the type, its base and what has been declared before leave one way to go on.
  induction first generalizing chain' foundation' with
  | free bare =>
    cases second with
    | free => exact ⟨rfl, rfl⟩
    | registered builds | declared builds => simp [bare] at builds
  | @registered earlier name below spec predicate builds absent known =>
    cases second with
    | free bare => simp [builds] at bare
    | registered builds' _ known' =>
      obtain rfl : below = _ := Option.some.inj (builds.symm.trans builds')
      obtain rfl : predicate = _ := Option.some.inj (known.symm.trans known')
      exact ⟨rfl, rfl⟩
    | declared builds' =>
      obtain rfl : below = _ := Option.some.inj (builds.symm.trans builds')
      exact absurd (by simp [Members.names]) absent
  | @declared earlier between name below spec other chain foundation builds follows ih =>
    generalize same : earlier ++ (below, other) :: between = all at second
    cases second with
    | free bare => simp [builds] at bare
    | registered builds' absent =>
      obtain rfl : below = _ := Option.some.inj (builds.symm.trans builds')
      exact absurd (by simp [← same, Members.names]) absent
    | declared builds' follows' =>
      -- Both follow the one type of that name, which stands at one place only.
      obtain rfl : below = _ := Option.some.inj (builds.symm.trans builds')
      obtain ⟨rfl, rfl, -⟩ := Members.split_unique distinct same
      have distinctEarlier := (List.nodup_append.1 (Members.names_append earlier _ ▸ distinct)).1
      obtain ⟨rfl, rfl⟩ := ih distinctEarlier follows'
      exact ⟨rfl, rfl⟩

/-- The checks along a chain, beginning with the type of the registry. -/
def chainChecks (chain : List (String × TypeSpec)) (foundation : Option Predicate) :
    List TypeCheck :=
  (foundation.map TypeCheck.registered).toList ++ chain.flatMap fun type => type.2.checks type.1

/-- The checks of the last type of a chain come last. -/
theorem chainChecks_append (chain : List (String × TypeSpec)) (foundation : Option Predicate)
    (name : String) (spec : TypeSpec) :
    chainChecks (chain ++ [(name, spec)]) foundation =
      chainChecks chain foundation ++ spec.checks name := by
  simp [chainChecks]

/-- A predicate that means the checks of a type's chain, which takes each type once at most. -/
def Means (patterns : PatternLanguage) (base : Registry) (earlier : Members TypeSpec)
    (type : String × TypeSpec) (predicate : Predicate) : Prop :=
  ∃ chain foundation, Chain base earlier type chain foundation ∧
    chain.length ≤ earlier.length + 1 ∧
    ∀ value parent,
      TypeCheck.Decides patterns value parent (chainChecks chain foundation) (predicate value parent)

/-- A registry that holds the predicates of declared types, and otherwise what another one holds. -/
structure Holds (patterns : PatternLanguage) (base other : Registry) (earlier : Members TypeSpec)
    (held : Registry) : Prop where
  /-- Every declared type has the predicate of its last declaration. -/
  declared : ∀ name ∈ earlier.names, ∃ before spec between predicate,
    earlier = before ++ (name, spec) :: between ∧ held.get? name = some predicate ∧
      Means patterns base before (name, spec) predicate
  /-- Nothing else is changed. -/
  others : ∀ name, name ∉ earlier.names → held.get? name = other.get? name

/-- Without a declared type, a registry is as it was. -/
theorem Holds.start (other : Registry) : Holds patterns base other [] other where
  -- There is no declared type to speak of.
  declared := by
    intro name among
    cases among
  others := fun _ _ => rfl

/-- A type is registered beside those before it. -/
theorem Holds.register {other held : Registry} {earlier : Members TypeSpec} {name : String}
    {spec : TypeSpec} {predicate : Predicate} (holds : Holds patterns base other earlier held)
    (means : Means patterns base earlier (name, spec) predicate) :
    Holds patterns base other (earlier ++ [(name, spec)]) (held.register name predicate) where
  declared := by
    intro wanted among
    by_cases same : wanted = name
    · -- The new declaration is the last one of its name.
      subst same
      exact ⟨earlier, spec, [], predicate, rfl, Members.get?_insert_self wanted predicate _, means⟩
    · have before : wanted ∈ earlier.names := by
        simpa [Members.names, same] using among
      obtain ⟨front, other, between, earlierPredicate, rfl, found, meant⟩ :=
        holds.declared wanted before
      refine ⟨front, other, between ++ [(name, spec)], earlierPredicate, by simp, ?_, meant⟩
      rw [← found]
      exact Members.get?_insert_of_ne same predicate _
  others := by
    intro wanted absent
    have apart : wanted ∉ earlier.names ∧ wanted ≠ name := by
      simpa [Members.names] using absent
    rw [← holds.others wanted apart.1]
    exact Members.get?_insert_of_ne apart.2 predicate _

/-- A rule made where the types before it are known means the checks of its chain. -/
theorem means_of_rule {scope : Registry} {earlier : Members TypeSpec} {name : String}
    {spec : TypeSpec} {rule : TypeRule} (holds : Holds patterns base base earlier scope)
    (made : spec.rule patterns name scope = .ok rule) :
    Means patterns base earlier (name, spec) rule.predicate := by
  obtain ⟨-, -, -, looked, -⟩ := TypeSpec.rule_eq_ok made
  -- It is enough to know what the base means.
  suffices inherits : ∃ chain foundation,
      Chain base earlier (name, spec) (chain ++ [(name, spec)]) foundation ∧
      chain.length ≤ earlier.length ∧ ∀ value parent,
        TypeCheck.Decides patterns value parent (chainChecks chain foundation)
          (rule.judgeBase value parent) by
    obtain ⟨chain, foundation, follows, short, decides⟩ := inherits
    refine ⟨chain ++ [(name, spec)], foundation, follows, by simpa using short, ?_⟩
    intro value parent
    rw [chainChecks_append]
    exact TypeSpec.decides_predicate made (decides value parent)
  generalize builds : spec.base = below at looked
  generalize given : rule.base = found at looked
  cases looked with
  | none =>
    refine ⟨[], none, .free builds, by simp, fun value parent => ?_⟩
    have accepts : rule.judgeBase value parent = .pass := by simp [TypeRule.judgeBase, given]
    exact accepts ▸ .done
  | @some below predicate looked =>
    have judges : ∀ value parent, rule.judgeBase value parent = predicate value parent := by
      simp [TypeRule.judgeBase, given]
    by_cases among : below ∈ earlier.names
    · -- The scope has the base from the type of that name, whose chain is followed.
      obtain ⟨before, other, between, held, rfl, same, chain, foundation, follows, short, decides⟩ :=
        holds.declared below among
      obtain rfl : held = predicate := Option.some.inj (same.symm.trans looked)
      refine ⟨chain, foundation, .declared builds follows, ?_, fun value parent => ?_⟩
      · simp only [List.length_append, List.length_cons]
        omega
      · exact judges value parent ▸ decides value parent
    · -- No such type is declared earlier, so the name is one of the registry.
      have known : base.get? below = some predicate := by
        rw [← holds.others below among, looked]
      refine ⟨[], some predicate, .registered builds among known, by simp, fun value parent => ?_⟩
      rw [judges value parent]
      refine .single (fun passes => ?_) fun _ => rfl
      -- Only one verdict is an acceptance.
      change (predicate value parent).isPass = true at passes
      cases verdict : predicate value parent <;> simp_all [Verdict.isPass]

/-- Every predicate that is registered means the checks of its type's chain. -/
theorem holds_registerAll {types earlier : Members TypeSpec} {scope declared registry : Registry}
    (built : registerAll patterns types scope declared = .ok registry) {other : Registry}
    (inScope : Holds patterns base base earlier scope)
    (among : Holds patterns base other earlier declared) :
    Holds patterns base other (earlier ++ types) registry := by
  -- Both registries grow with each type, and the scope is what the next one builds on.
  induction types generalizing scope declared earlier with
  | nil =>
    cases built
    simpa using among
  | cons type rest ih =>
    obtain ⟨name, spec⟩ := type
    rw [registerAll, bind_eq_ok_iff] at built
    obtain ⟨rule, made, built⟩ := built
    have means := means_of_rule inScope made
    have grown := ih built (inScope.register means) (among.register means)
    rwa [List.append_assoc] at grown

/-- Registering more types goes on where the first have been registered. -/
theorem exists_of_registerAll_append {earlier later : Members TypeSpec}
    {scope declared registry : Registry}
    (built : registerAll patterns (earlier ++ later) scope declared = .ok registry) :
    ∃ grown smaller, registerAll patterns earlier scope declared = .ok smaller ∧
      registerAll patterns later grown smaller = .ok registry := by
  -- The scope grows along with the types that have been registered.
  induction earlier generalizing scope declared with
  | nil => exact ⟨scope, declared, rfl, built⟩
  | cons type rest ih =>
    obtain ⟨name, spec⟩ := type
    rw [List.cons_append, registerAll, bind_eq_ok_iff] at built
    obtain ⟨rule, made, built⟩ := built
    obtain ⟨grown, smaller, first, last⟩ := ih built
    refine ⟨grown, smaller, ?_, last⟩
    rw [registerAll, bind_eq_ok_iff]
    exact ⟨rule, made, first⟩

/-- Types keep out of the names of others. -/
theorem get?_of_registerAll {types : Members TypeSpec} {scope declared registry : Registry}
    (built : registerAll patterns types scope declared = .ok registry) {name : String}
    (apart : name ∉ types.names) : registry.get? name = declared.get? name := by
  -- Each step registers one name, which is another one.
  induction types generalizing scope declared with
  | nil =>
    cases built
    rfl
  | cons type rest ih =>
    obtain ⟨first, spec⟩ := type
    rw [registerAll, bind_eq_ok_iff] at built
    obtain ⟨rule, -, built⟩ := built
    have differs : name ≠ first ∧ name ∉ Members.names rest := by
      simpa [Members.names] using apart
    rw [ih built differs.2]
    exact Members.get?_insert_of_ne differs.1 rule.predicate _

/-- What declared types mean, once a configuration has been registered. A type that is declared has one
chain, along which it takes at most as many steps as types are declared, and its predicate means the
checks along it: it accepts what passes all of them, and speaks for the first check that fails. What
is declared later takes no part in it: the types registered so far stay what they are. -/
theorem registry_means_chains {config : Config} {registry : Registry}
    (distinct : config.types.names.Nodup) (built : config.registry patterns base = .ok registry) :
    (∀ earlier name spec later, config.types = earlier ++ (name, spec) :: later →
      ∃ chain foundation predicate,
        Chain base earlier (name, spec) chain foundation ∧
        (∀ chain' foundation', Chain base earlier (name, spec) chain' foundation' →
          chain' = chain ∧ foundation' = foundation) ∧
        chain.length ≤ config.types.length ∧
        registry.get? name = some predicate ∧
        ∀ value parent,
          ((predicate value parent).isPass = true ↔
            ∀ check ∈ chainChecks chain foundation, check.Passes patterns value parent) ∧
          ∀ passed failed skipped, chainChecks chain foundation = passed ++ failed :: skipped →
            (∀ check ∈ passed, check.Passes patterns value parent) →
            ¬ failed.Passes patterns value parent →
            predicate value parent = failed.refusal value parent) ∧
    ∀ earlier later, config.types = earlier ++ later →
      ∃ smaller, Config.registry ⟨earlier⟩ patterns base = .ok smaller ∧
        ∀ name ∈ earlier.names, registry.get? name = smaller.get? name := by
  obtain ⟨types⟩ := config
  constructor
  · intro earlier name spec later same
    subst same
    have held : Holds patterns base .empty ([] ++ (earlier ++ (name, spec) :: later)) registry :=
      holds_registerAll built (Holds.start base) (Holds.start .empty)
    obtain ⟨before, found, after, predicate, split, looked, chain, foundation, follows, short,
      decides⟩ := held.declared name (by simp [Members.names])
    -- The name is declared at one place, so it is this declaration that is registered.
    obtain ⟨rfl, rfl, -⟩ := Members.split_unique distinct split
    have distinctEarlier := (List.nodup_append.1 (Members.names_append earlier _ ▸ distinct)).1
    refine ⟨chain, foundation, predicate, follows, fun _ _ => follows.unique distinctEarlier, ?_,
      looked, fun value parent => ⟨(decides value parent).isPass_iff, ?_⟩⟩
    · simp only [List.length_append, List.length_cons]
      omega
    · intro passed failed skipped checks each fails
      exact (checks ▸ decides value parent).eq_refusal each fails
  · intro earlier later same
    subst same
    obtain ⟨grown, smaller, first, last⟩ := exists_of_registerAll_append built
    refine ⟨smaller, first, fun name among => get?_of_registerAll last fun again => ?_⟩
    -- A later type has none of the earlier names.
    obtain ⟨-, -, apart⟩ := List.nodup_append.1 (Members.names_append earlier later ▸ distinct)
    exact apart name among name again rfl

/-- Texts that begin with one letter, under the name of all texts. -/
def hText : TypeSpec where
  base := some "string"
  pattern := some "^h"
  oneOf := none
  message := some "should begin with h"

/-- Two greetings. -/
def greeting : TypeSpec where
  base := some "string"
  pattern := none
  oneOf := some [.string "hello", .string "ahoy"]
  message := none

/-- A type that stands for the built-in one of its name from there on, and one that builds on it. -/
def greetings : Config where
  types := [("string", hText), ("greeting", greeting)]

/-- Both declared types check a greeting: the first by its pattern, though both have the built-in type
below them, and it is the first that words the refusal. -/
theorem registry_means_chains_greetings :
    ∃ registry predicate, greetings.registry Pattern.language .builtin = .ok registry ∧
      registry.get? "greeting" = some predicate ∧
      predicate (.string "ahoy") none = .reason "should begin with h" ∧
      (predicate (.string "hello") none).isPass = true := by
  -- The configuration is registered, so the general account of its types applies.
  obtain ⟨registry, built⟩ : ∃ registry,
      greetings.registry Pattern.language .builtin = .ok registry := by
    have succeeds : (greetings.registry Pattern.language .builtin).toBool = true := by decide +kernel
    cases result : greetings.registry Pattern.language .builtin with
    | error error => simp [result, Except.toBool] at succeeds
    | ok registry => exact ⟨registry, rfl⟩
  have means := registry_means_chains (by decide) built
  obtain ⟨chain, foundation, predicate, -, unique, -, looked, judges⟩ :=
    means.1 [("string", hText)] "greeting" greeting [] rfl
  -- The chain leads from the second type to the first, and from there to the built-in one.
  have bottom : Chain .builtin [] ("string", hText) [("string", hText)]
      (some (Registry.hasTag .string)) := .registered rfl (by simp [Members.names]) rfl
  have follows : Chain .builtin [("string", hText)] ("greeting", greeting) greetings.types
      (some (Registry.hasTag .string)) := .declared rfl bottom
  obtain ⟨rfl, rfl⟩ := unique _ _ follows
  refine ⟨registry, predicate, built, looked, ?_, ?_⟩
  · -- The text passes the built-in type, and not the pattern of the first declared one.
    refine (judges (.string "ahoy") none).2 [.registered (Registry.hasTag .string)] _ _ rfl ?_ ?_
    · intro check among
      obtain rfl := List.mem_singleton.1 among
      rfl
    · intro passes
      obtain ⟨text, same, occurs⟩ := passes
      have fails : Pattern.language.occurs "^h" "ahoy" = false := by decide +kernel
      cases same
      exact Bool.false_ne_true (fails.symm.trans occurs)
  · -- The text passes each of the three checks.
    have occurs : Pattern.language.occurs "^h" "hello" = true := by decide +kernel
    have checks : chainChecks greetings.types (some (Registry.hasTag .string)) =
        [.registered (Registry.hasTag .string), .pattern "string" hText.message "^h",
          .oneOf "greeting" none [.string "hello", .string "ahoy"]] := rfl
    refine (judges (.string "hello") none).1.2 fun check among => ?_
    simp only [checks, List.mem_cons, List.not_mem_nil, or_false] at among
    rcases among with rfl | rfl | rfl
    · rfl
    · exact ⟨"hello", rfl, occurs⟩
    · exact ⟨.string "hello", by simp, by decide⟩

end Config

end Conform
