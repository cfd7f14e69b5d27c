import Conform.Proofs.Schema.Compilation
import Conform.Proofs.Schema.Stops
import Conform.Proofs.Schema.Termination

/-! A date of another than a mail year has no text. Quoting one is the end of a compilation, and no
validation ever comes to quote one. -/

namespace Conform

namespace Description

/-- The values that a description quotes: the value itself, or those that its items quote. -/
inductive Quotes (given : Value) : Description → Prop where
  | value : Quotes given (.value given)
  -- Shapes and predicates are quoted without their contents.
  | item {item : Description} {items : List Description} (among : item ∈ items)
      (quotes : Quotes given item) : Quotes given (.items items)

variable {links : Links}

/-- Items lack texts exactly if one of them lacks its text. -/
theorem itemTexts?_eq_none_iff {items : List Description} :
    itemTexts? links items = none ↔ ∃ item ∈ items, item.toText? links = none := by
  -- The texts are put together from the front.
  induction items with
  | nil => simp [itemTexts?]
  | cons first rest ih =>
    rw [List.exists_mem_cons_iff, ← ih, itemTexts?]
    cases first.toText? links <;> cases itemTexts? links rest <;> simp

/-- A description lacks a text exactly if a value that it quotes does. -/
theorem toText?_eq_none_iff (links : Links) (description : Description) :
    description.toText? links = none ↔ ∃ given, description.Quotes given ∧ given.toText? = none := by
  induction description using holds_of_parts with
  | items items ih =>
    rw [toText?, Option.map_eq_none_iff, itemTexts?_eq_none_iff]
    constructor
    · rintro ⟨item, among, unwritten⟩
      obtain ⟨given, quotes, unwritten⟩ := (ih item among).1 unwritten
      exact ⟨given, .item among quotes, unwritten⟩
    · rintro ⟨given, quotes, unwritten⟩
      cases quotes with
      | item among quotes => exact ⟨_, among, (ih _ among).2 ⟨given, quotes, unwritten⟩⟩
  | value given =>
    refine ⟨fun unwritten => ⟨given, .value, unwritten⟩, ?_⟩
    rintro ⟨_, quotes, unwritten⟩
    cases quotes
    exact unwritten
  | shorthand | shape | predicate | node | struct =>
    -- What is written in any case quotes no value.
    refine iff_of_false nofun ?_
    rintro ⟨_, quotes, _⟩
    cases quotes

end Description

/-- A description without a meaning is quoted, unless it has no text. -/
theorem Scope.invalid_eq_unprintable_iff (scope : Scope) (description : Description) :
    scope.invalid description = .unprintable ↔ description.toText? scope.links = none := by
  -- With a text the description is quoted in another error.
  unfold Scope.invalid
  cases description.toText? scope.links <;> simp

/-- A compilation fails for lack of a text exactly if the first thing that it cannot make sense of is a
value without one: all names in front of it are registered. -/
theorem Scope.compile_unprintable_iff (scope : Scope) (defaults : Option Defaults)
    (description : Description) :
    scope.compile defaults description = .error .unprintable ↔
      ∃ before given after, description.demands = before ++ .meaning (.value given) :: after ∧
        (∀ earlier ∈ before, earlier.Met scope.registry) ∧ given.toText? = none := by
  have obeys := obeys_compile scope defaults description
  constructor
  · intro unprintable
    have defective : ¬ ∀ demand ∈ description.demands, demand.Met scope.registry := by
      rw [← obeys.exists_ok_iff, unprintable]
      exact nofun
    obtain ⟨before, demand, after, order, met, _, failed⟩ := obeys.exists_error defective
    have reported := Except.error.inj (failed.symm.trans unprintable)
    cases demand with
    | type name => cases reported
    | meaning part =>
      have unwritten := (scope.invalid_eq_unprintable_iff part).1 reported
      have demanded : .meaning part ∈ description.demands := by simp [order]
      -- An empty list is quoted as nothing, so the part is a value.
      obtain ⟨_, rfl | ⟨given, rfl⟩⟩ := Description.of_meaning_demanded demanded
      · cases unwritten
      · exact ⟨before, given, after, order, met, unwritten⟩
  · rintro ⟨before, given, after, order, met, unwritten⟩
    rw [order] at obeys
    rw [obeys.eq_error met id]
    exact congrArg _ ((scope.invalid_eq_unprintable_iff (.value given)).2 unwritten)

namespace ValidationError

variable {failures : List Failure} {error : ValidationError}

/-- Only an empty list of failures is no error. -/
theorem ofFailures?_eq_none_iff : ofFailures? failures = none ↔ failures = [] := by
  cases failures <;> simp [ofFailures?]

/-- However an error is made or changed, it has the failures that it was made of, and never none. -/
structure Populated (error : ValidationError) : Prop where
  failing : error.failures ≠ []
  retyped : ∀ expected, (error.retype expected).failures = error.failures
  settled : error.settle.failures.length = error.failures.length
  nested : ∀ segment container,
    (error.nestedFailures segment container).length = error.failures.length
  gathered : ∀ others, ofFailures? (error.failures ++ others) ≠ none

/-- Every error has failures. -/
theorem populated (error : ValidationError) : error.Populated where
  -- The first failure is kept whatever is done to the error.
  failing := error.failures_ne_nil
  retyped := fun expected => failures_retype expected error
  settled := rfl
  nested := fun segment container => by simp [nestedFailures]
  gathered := fun others => by simp [ofFailures?_eq_none_iff, failures]

end ValidationError

namespace Schema

/-- A value has no text exactly if it is a date of another than a mail year, or an array that reaches one
through arrays alone; a description has none exactly if it is such a value, or items that reach one
through items alone; and a compilation fails for that reason exactly if such a value is the first thing
that it cannot make sense of. A validation never does, whatever dates it meets: it comes to an outcome
unless it goes too deep or meets an unknown reference, because no schema accepts a text as anything but
itself, which is all that is ever asked of a key. And no error is without failures. -/
theorem unprintable_never_validated :
    (∀ value : Value, value.toText? = none ↔
      ∃ instant, value.Quotes instant ∧ ¬ instant.InMailYears) ∧
    (∀ links (description : Description), description.toText? links = none ↔
      ∃ given instant, description.Quotes given ∧ given.Quotes instant ∧ ¬ instant.InMailYears) ∧
    (∀ (scope : Scope) defaults (description : Description),
      scope.compile defaults description = .error .unprintable ↔
        ∃ before given after instant,
          description.demands = before ++ .meaning (.value given) :: after ∧
          (∀ earlier ∈ before, earlier.Met scope.registry) ∧
          given.Quotes instant ∧ ¬ instant.InMailYears) ∧
    (∀ links depth schema value parent,
      validate links depth schema value parent ≠ .error .unprintable ∧
      (Throughout links (Resolved links) schema →
        validate links depth schema value parent ≠ .error .tooDeep →
          ∃ outcome, validate links depth schema value parent = .ok outcome)) ∧
    (∀ links depth key name parent accepted,
      validate links depth key (.string name) parent = .ok (.ok accepted) →
        accepted = .string name ∧ keyText accepted = .ok name) ∧
    (∀ failures, ValidationError.ofFailures? failures = none ↔ failures = []) ∧
    ∀ error : ValidationError, error.Populated := by
  refine ⟨Value.toText?_eq_none_iff, fun links description => ?_, fun scope defaults description => ?_,
    fun links depth schema value parent => ⟨fun stopped => ?_, fun resolved shallow => ?_⟩,
    fun links depth key name parent accepted checked => ?_,
    fun _ => ValidationError.ofFailures?_eq_none_iff, ValidationError.populated⟩
  · simp only [Description.toText?_eq_none_iff, Value.toText?_eq_none_iff, exists_and_left]
  · simp only [Scope.compile_unprintable_iff, Value.toText?_eq_none_iff, exists_and_left]
  · -- Validation stops for one of two reasons, and this is neither.
    rcases stop_of_validate stopped with same | ⟨_, _, _, same⟩ <;> cases same
  · -- With all references known only the depth is left as a reason.
    cases ran : validate links depth schema value parent with
    | ok outcome => exact ⟨outcome, rfl⟩
    | error reason =>
      rcases stop_of_validate ran with rfl | ⟨reference, reached, unknown, _⟩
      · exact absurd ran shallow
      · obtain ⟨target, known⟩ := resolved _ reached
        rw [unknown] at known
        cases known
  · -- A key comes back as the text that it is.
    obtain rfl := (kept_validate checked).of_string
    exact ⟨rfl, rfl⟩

/-- The first instant of the year ten thousand. -/
def far : Instant :=
  ⟨253402300800, 0⟩

/-- Objects of any names with anything defined under them. -/
def ledger : Schema :=
  .dict ⟨"dict<string,any>", none⟩ (Registry.hasTag .object)
    (.scalar ⟨"string", none⟩ (Registry.hasTag .string))
    (.scalar ⟨"any", none⟩ Registry.anything)

/-- A date of the year ten thousand has no text, nor has an array that reaches it through another, but an
object that holds it has. Two texts in front do not keep a compilation from quoting the array, and a name
that is not registered does. An object that holds the date is validated all the same. -/
theorem unprintable_never_validated_far :
    (Value.array [.array [.date (some far)]]).toText? = none ∧
      (Value.object [("at", .date (some far))]).toText? ≠ none ∧
      (Scope.mk Registry.builtin []).compile none
        (.items [.shorthand "string", .value (.array [.date (some far)])]) =
          .error .unprintable ∧
      (Scope.mk Registry.builtin []).compile none
        (.items [.shorthand "text", .value (.array [.date (some far)])]) ≠
          .error .unprintable ∧
      ∃ outcome, validate [] 2 ledger (.object [("at", .date (some far))]) none =
        .ok outcome := by
  -- The year is out of bounds, and the array quotes the date, which the object does not.
  have outside : ¬ far.InMailYears := by
    unfold Instant.InMailYears
    decide
  obtain ⟨texts, -, compiles, validates, -⟩ := unprintable_never_validated
  have quotes : Value.Quotes far (.array [.date (some far)]) := .element List.mem_cons_self .date
  have known : ∀ earlier ∈ [Demand.type "string"], earlier.Met Registry.builtin := by
    simp only [List.forall_mem_singleton]
    exact (by decide : Registry.builtin.contains "string" = true)
  have order : (Description.items
      [.shorthand "text", .value (.array [.date (some far)])]).demands =
        [.type "text", .meaning (.value (.array [.date (some far)])), .type "array"] := rfl
  refine ⟨(texts _).2 ⟨far, .element List.mem_cons_self quotes, outside⟩, nofun,
    (compiles _ _ _).2 ⟨_, _, _, far, rfl, known, quotes, outside⟩, fun unprintable => ?_,
    (validates _ _ _ _ _).2 ?_ nofun⟩
  · obtain ⟨before, _, _, _, split, met, _⟩ := (compiles _ _ _).1 unprintable
    rw [order] at split
    -- The name stands in front of the value, and it would have to be registered.
    cases before with
    | nil => cases split
    | cons first rest =>
      obtain ⟨rfl, _⟩ := List.cons.inj split
      exact absurd (met _ List.mem_cons_self)
        (by decide : ¬ Registry.builtin.contains "text" = true)
  · -- The ledger holds no reference at all.
    refine .of_below trivial fun next leads => ?_
    cases leads with
    | key | entry => exact .of_below trivial fun _ leads => by cases leads

end Schema

end Conform
