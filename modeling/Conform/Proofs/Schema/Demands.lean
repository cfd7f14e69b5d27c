import Conform.Proofs.Schema.Formula
import Conform.Schema.Compile

/-! Building a schema puts demands one after another, and fails for the first one that is not met. -/

namespace Conform

/-- What building a schema demands: a registered type under a name, or a meaning for a description.
Only descriptions without any meaning are asked for one, so the second sort is never met. -/
inductive Demand where
  | type (name : String)
  | meaning (description : Description)

namespace Demand

/-- Whether a demand is met. -/
def Met (registry : Registry) : Demand → Prop
  | type name => registry.contains name = true
  | meaning _ => False

/-- The error that reports a demand. -/
def error (scope : Scope) : Demand → SchemaError
  | type name => .invalidType name
  | meaning description => scope.invalid description

end Demand

/-- A computation obeys demands in their order: it succeeds if all of them are met, and otherwise it
fails with the error of the first that is not. -/
inductive Obeys {α : Type} (scope : Scope) : List Demand → Except SchemaError α → Prop where
  | success {demands made} (met : ∀ demand ∈ demands, demand.Met scope.registry) :
      Obeys scope demands (.ok made)
  -- The demands after the first unmet one may be met or not.
  | failure {before demand after} (met : ∀ earlier ∈ before, earlier.Met scope.registry)
      (unmet : ¬ demand.Met scope.registry) :
      Obeys scope (before ++ demand :: after) (.error (demand.error scope))

namespace Obeys

variable {α β : Type} {scope : Scope} {demands others : List Demand} {first : Except SchemaError α}
  {next : α → Except SchemaError β}

/-- Without demands there is nothing to fail for. -/
theorem done (made : α) : Obeys scope [] (.ok made) :=
  .success (by simp)

/-- What the first demand refuses obeys whatever demands come after it. -/
theorem refuse {demand : Demand} {after : List Demand} (unmet : ¬ demand.Met scope.registry) :
    Obeys scope (demand :: after) (.error (demand.error scope) : Except SchemaError α) := by
  -- There is no demand in front of the first one.
  have first : ∀ earlier ∈ ([] : List Demand), earlier.Met scope.registry := by simp
  exact .failure first unmet

/-- A sequence obeys the demands of its first computation and then those of the next. -/
theorem bind (obeys : Obeys scope demands first)
    (continues : ∀ made, Obeys scope others (next made)) :
    Obeys scope (demands ++ others) (first >>= next) := by
  cases obeys with
  | @failure before demand after met unmet =>
    -- The first computation has failed, and what follows is not looked at.
    rw [List.append_assoc, List.cons_append]
    exact .failure met unmet
  | @success _ made met =>
    have both : ∀ {earlier : List Demand}, (∀ demand ∈ earlier, demand.Met scope.registry) →
        ∀ demand ∈ demands ++ earlier, demand.Met scope.registry := by
      intro earlier metToo demand among
      rcases List.mem_append.1 among with among | among
      · exact met demand among
      · exact metToo demand among
    show Obeys scope (demands ++ others) (next made)
    -- What comes next obeys its own demands, in front of which those that have been met now stand.
    generalize outcome : next made = result
    have following := outcome ▸ continues made
    cases following with
    | success metToo => exact .success (both metToo)
    | failure metToo unmet =>
      rw [← List.append_assoc]
      exact .failure (both metToo) unmet

/-- A pure step at the end adds no demand. -/
theorem andReturn (obeys : Obeys scope demands first) (wrap : α → β) :
    Obeys scope demands (first >>= fun made => pure (wrap made)) := by
  -- The last step demands nothing and always succeeds.
  have both := obeys.bind fun made => done (wrap made)
  rwa [List.append_nil] at both

/-- Running over a list obeys the demands of its elements in their order. -/
theorem mapM {demanded : α → List Demand} {step : α → Except SchemaError β} {items : List α}
    (each : ∀ item ∈ items, Obeys scope (demanded item) (step item)) :
    Obeys scope (items.flatMap demanded) (items.mapM step) := by
  -- The demands of the first item come before those of the rest, as the computations do.
  induction items with
  | nil => exact done []
  | cons item rest ih =>
    have others := ih fun later among => each later (List.mem_cons_of_mem _ among)
    rw [List.mapM_cons, List.flatMap_cons]
    exact (each item List.mem_cons_self).bind fun made => others.andReturn _

/-- An obedient computation succeeds exactly if all demands are met. -/
theorem exists_ok_iff (obeys : Obeys scope demands first) :
    (∃ made, first = .ok made) ↔ ∀ demand ∈ demands, demand.Met scope.registry := by
  -- A computation that fails has met a demand that is not met.
  cases obeys with
  | success met => exact ⟨fun _ => met, fun _ => ⟨_, rfl⟩⟩
  | failure met unmet =>
    constructor
    · intro succeeds
      obtain ⟨_, same⟩ := succeeds
      cases same
    · intro all
      exact absurd (all _ (by simp)) unmet

/-- An obedient computation whose demands are not all met fails for the first that is not. -/
theorem exists_error (obeys : Obeys scope demands first)
    (defective : ¬ ∀ demand ∈ demands, demand.Met scope.registry) :
    ∃ before demand after, demands = before ++ demand :: after ∧
      (∀ earlier ∈ before, earlier.Met scope.registry) ∧ ¬ demand.Met scope.registry ∧
      first = .error (demand.error scope) := by
  -- Where all demands are not met, the computation has not succeeded.
  cases obeys with
  | success met => exact absurd met defective
  | @failure before demand after met unmet => exact ⟨before, demand, after, rfl, met, unmet, rfl⟩

/-- An obedient computation fails for a demand that is not met and stands behind demands that are. -/
theorem eq_error {before after : List Demand} {demand : Demand}
    (obeys : Obeys scope (before ++ demand :: after) first)
    (met : ∀ earlier ∈ before, earlier.Met scope.registry) (unmet : ¬ demand.Met scope.registry) :
    first = .error (demand.error scope) := by
  obtain ⟨front, refused, back, order, metToo, unmetToo, failed⟩ :=
    obeys.exists_error fun all => unmet (all demand (by simp))
  -- Of two demands that are not met, the later one would have the other among those before it.
  rcases List.append_eq_append_iff.1 order with ⟨between, rfl, same⟩ | ⟨between, rfl, same⟩
  · cases between with
    | nil =>
      obtain ⟨rfl, _⟩ := List.cons.inj same
      exact failed
    | cons other _ =>
      obtain ⟨rfl, _⟩ := List.cons.inj same
      exact absurd (metToo _ (by simp)) unmet
  · cases between with
    | nil =>
      obtain ⟨rfl, _⟩ := List.cons.inj same
      exact failed
    | cons other _ =>
      obtain ⟨rfl, _⟩ := List.cons.inj same
      exact absurd (met _ (by simp)) unmetToo

end Obeys

section Builders

variable {scope : Scope} {defaults : Option Defaults}

/-- A name that is looked up has its registered predicate. -/
theorem get?_of_predicate {name : String} {predicate : Predicate}
    (found : scope.predicate name = .ok predicate) :
    scope.registry.get? name = some predicate := by
  -- A name that is not registered is not given a predicate.
  unfold Scope.predicate at found
  split at found
  · cases found
    assumption
  · cases found

/-- Looking a name up demands that it is registered. -/
theorem obeys_predicate (scope : Scope) (name : String) :
    Obeys scope [.type name] (scope.predicate name) := by
  unfold Scope.predicate
  have held : scope.registry.contains name = (scope.registry.get? name).isSome := rfl
  -- Names are looked up only here, so this is where every demand for a type comes from.
  cases found : scope.registry.get? name with
  | some predicate => exact .success (by simp [Demand.Met, held, found])
  | none => exact .refuse (by simp [Demand.Met, held, found])

/-- A scalar demands its name. -/
theorem obeys_scalar (scope : Scope) (name : String) (defaults : Option Defaults) :
    Obeys scope [.type name] (scope.scalar name defaults) :=
  (obeys_predicate scope name).andReturn _

/-- A list demands the type of arrays. -/
theorem obeys_list (scope : Scope) (element : Schema) (defaults : Option Defaults) :
    Obeys scope [.type "array"] (scope.list element defaults) :=
  (obeys_predicate scope "array").andReturn _

/-- A tuple demands the type of arrays. -/
theorem obeys_tuple (scope : Scope) (items : List Schema) (defaults : Option Defaults) :
    Obeys scope [.type "array"] (scope.tuple items defaults) :=
  (obeys_predicate scope "array").andReturn _

/-- A shape demands the type of objects. -/
theorem obeys_shape (scope : Scope) (mode : ShapeMode) (fields : Members Schema)
    (defaults : Option Defaults) :
    Obeys scope [.type "object"] (scope.shape mode fields defaults) :=
  (obeys_predicate scope "object").andReturn _

/-- An optional schema demands the type of what is undefined. -/
theorem obeys_optional (scope : Scope) (schema : Schema) (defaults : Option Defaults) :
    Obeys scope [.type "undefined"] (scope.optional schema defaults) :=
  (obeys_scalar scope "undefined" none).andReturn _

end Builders

namespace Shorthand

/-- The names in a conjunct, in the order in which they are looked up. -/
def Conjunct.names (conjunct : Conjunct) : List String :=
  conjunct.atom :: List.replicate conjunct.marks "undefined"

/-- The names in an alternative, in the order in which they are looked up. -/
def Alternative.names (alternative : Alternative) : List String :=
  alternative.conjuncts.flatMap Conjunct.names ++ List.replicate alternative.marks "undefined"

/-- The names in a formula, in the order in which they are looked up: alternative by alternative, and
within each conjunct by conjunct, the one for a question mark behind those that it stands behind. -/
def Formula.names (formula : Formula) : List String :=
  formula.alternatives.flatMap Alternative.names ++ List.replicate formula.marks "undefined"

/-- The names that a formula spells out. -/
def Formula.atoms (formula : Formula) : List String :=
  formula.alternatives.flatMap fun alternative => alternative.conjuncts.map Conjunct.atom

/-- Whether a formula has a question mark at any level. -/
def Formula.Marked (formula : Formula) : Prop :=
  0 < formula.marks ∨ ∃ alternative ∈ formula.alternatives,
    0 < alternative.marks ∨ ∃ conjunct ∈ alternative.conjuncts, 0 < conjunct.marks

/-- Whether every name that a formula spells out is registered, and, if it has a question mark
anywhere, the type of what is undefined as well. -/
def Formula.Registered (registry : Registry) (formula : Formula) : Prop :=
  (∀ atom ∈ formula.atoms, registry.contains atom = true) ∧
    (formula.Marked → registry.contains "undefined" = true)

/-- The names looked up for a formula are those that it spells out, and the type of what is undefined
if there is a question mark. -/
theorem Formula.mem_names {formula : Formula} {name : String} :
    name ∈ formula.names ↔ name ∈ formula.atoms ∨ formula.Marked ∧ name = "undefined" := by
  -- A name is looked up for an atom or for a question mark, and the latter stand at three levels.
  simp only [Formula.names, Alternative.names, Conjunct.names, Formula.atoms, Formula.Marked,
    List.mem_append, List.mem_flatMap, List.mem_cons, List.mem_replicate, List.mem_map,
    Nat.pos_iff_ne_zero]
  constructor
  · intro found
    rcases found with ⟨alternative, among, ⟨conjunct, inside, rfl | ⟨marked, rfl⟩⟩ | ⟨marked, rfl⟩⟩ |
      ⟨marked, rfl⟩
    · exact .inl ⟨alternative, among, conjunct, inside, rfl⟩
    · exact .inr ⟨.inr ⟨alternative, among, .inr ⟨conjunct, inside, marked⟩⟩, rfl⟩
    · exact .inr ⟨.inr ⟨alternative, among, .inl marked⟩, rfl⟩
    · exact .inr ⟨.inl marked, rfl⟩
  · intro found
    rcases found with ⟨alternative, among, conjunct, inside, rfl⟩ | ⟨marked, rfl⟩
    · exact .inl ⟨alternative, among, .inl ⟨conjunct, inside, .inl rfl⟩⟩
    · rcases marked with marked | ⟨alternative, among, marked | ⟨conjunct, inside, marked⟩⟩
      · exact .inr ⟨marked, rfl⟩
      · exact .inl ⟨alternative, among, .inr ⟨marked, rfl⟩⟩
      · exact .inl ⟨alternative, among, .inl ⟨conjunct, inside, .inr ⟨marked, rfl⟩⟩⟩

/-- The names looked up for a formula are registered exactly if the formula is. -/
theorem Formula.registered_iff {registry : Registry} {formula : Formula} :
    (∀ name ∈ formula.names, registry.contains name = true) ↔ formula.Registered registry := by
  -- The names of a formula are its atoms, and that of undefined if there is a question mark.
  simp only [Formula.mem_names]
  constructor
  · intro all
    exact ⟨fun atom found => all atom (.inl found), fun marked => all _ (.inr ⟨marked, rfl⟩)⟩
  · intro registered name found
    rcases found with found | ⟨marked, rfl⟩
    · exact registered.1 name found
    · exact registered.2 marked

/-- Question marks demand the type of what is undefined, once for each of them. -/
theorem obeys_optionals (scope : Scope) (count : Nat) (schema : Schema) :
    Obeys scope ((List.replicate count "undefined").map .type) (optionals scope count schema) := by
  induction count with
  | zero => exact .done schema
  | succ count ih =>
    -- The outermost question mark is built last, so its demand is put behind the others.
    rw [List.replicate_succ', List.map_append]
    exact ih.bind fun made => obeys_optional scope made none

/-- Joined parts demand what each of them demands, in their order. -/
theorem obeys_joined {α : Type} {scope : Scope}
    {combine : List Schema → Option Defaults → Schema}
    {build : α → Option Defaults → Built} {defaults : Option Defaults} {items : List α}
    {demanded : α → List Demand}
    (each : ∀ item ∈ items, ∀ defaults, Obeys scope (demanded item) (build item defaults)) :
    Obeys scope (items.flatMap demanded) (joined combine build defaults items) := by
  -- A single part is built with the default itself, and only several parts are run through.
  have all : Obeys scope (items.flatMap demanded) (items.mapM (build · none)) :=
    .mapM fun item among => each item among none
  match items with
  | [] => exact .done _
  | [only] =>
    rw [List.flatMap_singleton]
    exact each only List.mem_cons_self defaults
  | first :: next :: more =>
    rw [joined_several]
    exact all.andReturn _

/-- A conjunct demands its names. -/
theorem obeys_conjunct (scope : Scope) (conjunct : Conjunct) (defaults : Option Defaults) :
    Obeys scope (conjunct.names.map .type) (conjunct.build scope defaults) :=
  -- The name comes first, and then the type of undefined for each question mark.
  (obeys_scalar scope conjunct.atom defaults).bind fun made =>
    obeys_optionals scope conjunct.marks made

/-- An alternative demands its names. -/
theorem obeys_alternative (scope : Scope) (alternative : Alternative)
    (defaults : Option Defaults) :
    Obeys scope (alternative.names.map .type) (alternative.build scope defaults) := by
  -- The conjuncts are built in their order, and then the question marks are put around them.
  rw [Alternative.names, List.map_append, List.map_flatMap]
  exact (obeys_joined fun conjunct _ defaults => obeys_conjunct scope conjunct defaults).bind
    fun made => obeys_optionals scope alternative.marks made

/-- A formula demands its names. -/
theorem obeys_formula (scope : Scope) (formula : Formula) (defaults : Option Defaults) :
    Obeys scope (formula.names.map .type) (formula.build scope defaults) := by
  -- The alternatives are built in their order, and then the question marks are put around them.
  rw [Formula.names, List.map_append, List.map_flatMap]
  exact (obeys_joined fun alternative _ defaults =>
    obeys_alternative scope alternative defaults).bind
    fun made => obeys_optionals scope formula.marks made

/-- A shorthand can be built exactly if its formula is registered. -/
theorem exists_shorthand_iff (scope : Scope) (text : List Char) (defaults : Option Defaults) :
    (∃ schema, scope.shorthand text defaults = .ok schema) ↔
      (Formula.ofText text).Registered scope.registry := by
  -- A shorthand is built like its formula, which demands its names.
  rw [shorthand_eq_formula, (obeys_formula scope _ defaults).exists_ok_iff,
    ← Formula.registered_iff]
  simp [Demand.Met]

end Shorthand

end Conform
