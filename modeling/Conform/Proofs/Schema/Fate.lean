import Conform.Proofs.Schema.Arrays
import Conform.Proofs.Schema.Dictionaries
import Conform.Proofs.Schema.Shapes

/-! How the check of a container ends depends on how the checks of its places end, and not on their
order. -/

namespace Conform

/-- A run accepts something, or refuses it, or stops before it has come to a verdict. -/
inductive Fate where
  | accepted
  | refused
  | stopped

namespace Fate

/-- How a run ends. -/
def of {ε α : Type} : Run (Except ε α) → Fate
  | .ok (.ok _) => accepted
  | .ok (.error _) => refused
  | .error _ => stopped

/-- The fate of two checks in a row: the second only takes place if the first accepts. -/
def andThen : Fate → Fate → Fate
  | accepted, next => next
  | first, _ => first

/-- A run accepts if it comes to a result. -/
theorem of_eq_accepted_iff {ε α : Type} {run : Run (Except ε α)} :
    of run = accepted ↔ ∃ result, run = .ok (.ok result) := by
  -- Each of the three ends of a run has a fate of its own.
  rcases run with reason | error | result <;> simp [of]

/-- A run refuses if it comes to an error. -/
theorem of_eq_refused_iff {ε α : Type} {run : Run (Except ε α)} :
    of run = refused ↔ ∃ error, run = .ok (.error error) := by
  rcases run with reason | error | result <;> simp [of]

/-- A run stops if it comes to no outcome. -/
theorem of_eq_stopped_iff {ε α : Type} {run : Run (Except ε α)} :
    of run = stopped ↔ ¬ ∃ outcome, run = .ok outcome := by
  rcases run with reason | error | result <;> simp [of]

/-- A run that does not stop comes to an outcome. -/
theorem of_ne_stopped_iff {ε α : Type} {run : Run (Except ε α)} :
    of run ≠ stopped ↔ ∃ outcome, run = .ok outcome := by
  rw [ne_eq, of_eq_stopped_iff, not_not]

/-- Two fates are the same if both or neither accept, and both or neither stop. -/
theorem eq_of_iff {first second : Fate} (accepts : first = accepted ↔ second = accepted)
    (stops : first = stopped ↔ second = stopped) : first = second := by
  cases first <;> cases second <;> simp at accepts stops <;> rfl

section Gathering

variable {α β : Type} {step : α → Run (Except (List Failure) β)} {items : List α}

/-- Gathering findings stops if one of them cannot be made. -/
theorem of_gather_eq_stopped_iff :
    of (do return gather (← items.mapM step)) = stopped ↔
      ∃ item ∈ items, of (step item) = stopped := by
  -- The run over all items comes to an end if each of them does.
  have ends : (∃ findings, items.mapM step = .ok findings) ↔
      ∀ item ∈ items, ∃ finding, step item = .ok finding := by
    constructor
    · intro ran item among
      obtain ⟨findings, each⟩ := ran
      obtain ⟨finding, _, found⟩ := exists_related (mapM_eq_ok_iff.1 each) item among
      exact ⟨finding, found⟩
    · intro each
      obtain ⟨findings, related⟩ := exists_forall₂ each
      exact ⟨findings, mapM_eq_ok_iff.2 related⟩
  have gathers : (∃ outcome, (do return gather (← items.mapM step)) = .ok outcome) ↔
      ∃ findings, items.mapM step = .ok findings := by
    simp [bind_eq_ok_iff, Pure.pure, Except.pure]
  -- Not all of them come to an end exactly if some of them stops.
  simp only [of_eq_stopped_iff, gathers, ends]
  simp

/-- Gathering findings accepts if each of them does, when every refusal reports something. -/
theorem of_gather_eq_accepted_iff
    (reported : ∀ item ∈ items, ∀ failures, step item = .ok (.error failures) → failures ≠ []) :
    of (do return gather (← items.mapM step)) = accepted ↔
      ∀ item ∈ items, of (step item) = accepted := by
  -- A finding that refuses without a failure would be lost in the gathering.
  have reports : ∀ {findings}, items.mapM step = .ok findings →
      ∀ failures, .error failures ∈ findings → failures ≠ [] := by
    intro findings ran failures found
    obtain ⟨item, among, refused⟩ := exists_related (mapM_eq_ok_iff.1 ran).flip _ found
    exact reported item among failures refused
  simp only [of_eq_accepted_iff, bind_eq_ok_iff, Pure.pure, Except.pure, Except.ok.injEq]
  constructor
  · intro gathered item among
    obtain ⟨results, findings, ran, same⟩ := gathered
    rw [gather_eq_ok_iff (reports ran)] at same
    subst same
    obtain ⟨result, _, found⟩ :=
      exists_related (List.forall₂_map_right_iff.1 (mapM_eq_ok_iff.1 ran)) item among
    exact ⟨result, found⟩
  · intro each
    obtain ⟨results, related⟩ := exists_forall₂ each
    -- Without a refusal, the results are all that is gathered.
    have ran : items.mapM step = .ok (results.map .ok) :=
      mapM_eq_ok_iff.2 (List.forall₂_map_right_iff.2 related)
    exact ⟨results, _, ran, (gather_eq_ok_iff (reports ran)).2 rfl⟩

/-- Gathering two sorts of findings ends alike if each of the one ends as some of the other does. -/
theorem of_gather_eq {α' β' : Type} {step' : α' → Run (Except (List Failure) β')}
    {items' : List α'}
    (reported : ∀ item ∈ items, ∀ failures, step item = .ok (.error failures) → failures ≠ [])
    (reported' : ∀ item ∈ items', ∀ failures, step' item = .ok (.error failures) → failures ≠ [])
    (matched : ∀ item ∈ items, ∃ item' ∈ items', of (step item) = of (step' item'))
    (matched' : ∀ item' ∈ items', ∃ item ∈ items, of (step item) = of (step' item')) :
    of (do return gather (← items.mapM step)) = of (do return gather (← items'.mapM step')) := by
  -- Both fates are decided by whether all items accept and whether some stop, on either side.
  refine eq_of_iff ?_ ?_
  · rw [of_gather_eq_accepted_iff reported, of_gather_eq_accepted_iff reported']
    constructor
    · intro all item' among
      obtain ⟨item, found, same⟩ := matched' item' among
      exact same ▸ all item found
    · intro all item among
      obtain ⟨item', found, same⟩ := matched item among
      exact same.trans (all item' found)
  · rw [of_gather_eq_stopped_iff, of_gather_eq_stopped_iff]
    constructor
    · intro stops
      obtain ⟨item, among, stops⟩ := stops
      obtain ⟨item', found, same⟩ := matched item among
      exact ⟨item', found, same ▸ stops⟩
    · intro stops
      obtain ⟨item', among, stops⟩ := stops
      obtain ⟨item, found, same⟩ := matched' item' among
      exact ⟨item, found, same.trans stops⟩

end Gathering

section Containers

variable {check : Checker} {container : Value} {slots : List Slot}

/-- The visit of a slot ends as the check of its value does, if a schema is declared for it. -/
theorem of_visit (slot : Slot) {schema : Schema} (declared : slot.declared = some schema) :
    of (slot.visit check container) = of (check schema slot.value (some container)) := by
  -- A visit only moves what the check reports to the place of the slot.
  unfold Slot.visit
  rw [declared]
  dsimp only
  rcases check schema slot.value (some container) with reason | error | result <;> rfl

/-- The visit of a slot refuses its value if nothing is declared for it. -/
theorem of_visit_undeclared (slot : Slot) (undeclared : slot.declared = none) :
    of (slot.visit check container) = refused := by
  -- Without a schema there is nothing that could accept the value.
  unfold Slot.visit
  rw [undeclared]
  rfl

/-- Every refusal of a slot reports something. -/
theorem reported_visit : ∀ slot ∈ slots, ∀ failures,
    slot.visit check container = .ok (.error failures) → failures ≠ [] := by
  -- A slot refuses with failures, or because nothing is declared for it, which is a failure too.
  intro slot _ failures refused
  exact (Slot.visit_eq_error_iff.1 refused).ne_nil

/-- Every refusal of an entry reports something. -/
theorem reported_checkEntry (key item : Schema) (members : Members Value) : ∀ entry ∈ members,
    ∀ failures, Schema.checkEntry check key item container entry = .ok (.error failures) →
      failures ≠ [] := by
  -- An entry is refused with the failures of its name or of its value.
  intro entry _ failures refused
  exact (Schema.entryRefuses_of_checkEntry refused).ne_nil

/-- Two visits of slots end alike if the slots do, one by one. -/
theorem of_visitAll_eq {check' : Checker} {container' : Value} {slots' : List Slot}
    (each : List.Forall₂ (fun slot slot' =>
      of (slot.visit check container) = of (slot'.visit check' container')) slots slots') :
    of (visitAll check container slots) = of (visitAll check' container' slots') := by
  -- Each slot of the one list has its counterpart in the other.
  refine of_gather_eq reported_visit reported_visit (exists_related each) fun slot' among => ?_
  obtain ⟨slot, found, same⟩ := exists_related each.flip slot' among
  exact ⟨slot, found, same⟩

/-- A visit of slots does not stop if no check of a declared slot does. -/
theorem of_visitAll_ne_stopped (each : ∀ slot ∈ slots, ∀ field, slot.declared = some field →
      of (check field slot.value (some container)) ≠ stopped) :
    of (visitAll check container slots) ≠ stopped := by
  intro stops
  rw [visitAll, of_gather_eq_stopped_iff] at stops
  obtain ⟨slot, among, stops⟩ := stops
  -- Where nothing is declared, the visit refuses without a check.
  cases declared : slot.declared with
  | none =>
    rw [of_visit_undeclared slot declared] at stops
    cases stops
  | some field =>
    rw [of_visit slot declared] at stops
    exact each slot among field declared stops

/-- The check of an object ends as the visit of its slots does. -/
theorem of_checkShape (mode : ShapeMode) (defaults : Option Defaults) (fields : Members Schema)
    (members : Members Value) :
    of (Schema.checkShape check mode defaults fields members) =
      of (visitAll check (.object members) (Schema.shapeSlots mode defaults fields members)) := by
  -- What is put together from the results is neither refused nor stopped.
  unfold Schema.checkShape
  rcases visitAll check (.object members) (Schema.shapeSlots mode defaults fields members) with
    reason | error | results <;> rfl

/-- The check of an array ends as the visit of its slots does. -/
theorem of_checkItems (items : List Value) (slots : List Slot) :
    of (Schema.checkItems check items slots) = of (visitAll check (.array items) slots) := by
  -- What is put together from the results is neither refused nor stopped.
  unfold Schema.checkItems
  rcases visitAll check (.array items) slots with reason | error | results <;> rfl

/-- The check of a dictionary ends as the gathering of its checked entries does. -/
theorem of_checkDict (key item : Schema) (members : Members Value) :
    of (Schema.checkDict check key item members) =
      of (do return gather (← members.mapM (Schema.checkEntry check key item
        (.object members)))) := by
  unfold Schema.checkDict
  rcases members.mapM (Schema.checkEntry check key item (.object members)) with reason | findings
  · rfl
  · show of (.ok ((gather findings).map Value.ofPairs)) = of (.ok (gather findings))
    -- Building the object from the results does not change whether there are any.
    rcases gather findings with error | results <;> rfl

/-- The check of an entry whose key stays as it is ends as that of the key followed by that of the
value. -/
theorem of_checkEntry (key item : Schema) (name : String) (value : Value)
    (kept : ∀ result, check key (.string name) (some container) = .ok (.ok result) →
      result = .string name) :
    of (Schema.checkEntry check key item container (name, value)) =
      (of (check key (.string name) (some container))).andThen
        (of (check item value (some container))) := by
  unfold Schema.checkEntry
  dsimp only
  rcases checked : check key (.string name) (some container) with reason | error | result
  · rfl
  · rfl
  · -- The key is read back as the name, and then the value is checked.
    obtain rfl := kept result checked
    rcases check item value (some container) with reason | error | accepted <;> rfl

/-- The check of a dictionary does not stop if those of its keys and values do not, and if keys stay
as they are. -/
theorem of_checkDict_ne_stopped {key item : Schema} {members : Members Value}
    (kept : ∀ name result, check key (.string name) (some (.object members)) = .ok (.ok result) →
      result = .string name)
    (keys : ∀ name value, (name, value) ∈ members →
      of (check key (.string name) (some (.object members))) ≠ stopped)
    (values : ∀ name value, (name, value) ∈ members →
      of (check item value (some (.object members))) ≠ stopped) :
    of (Schema.checkDict check key item members) ≠ stopped := by
  intro stops
  rw [of_checkDict, of_gather_eq_stopped_iff] at stops
  obtain ⟨⟨name, value⟩, held, stops⟩ := stops
  rw [of_checkEntry key item name value (kept name)] at stops
  -- The entry stops with its key, or with its value once the key has been accepted.
  cases ended : of (check key (.string name) (some (.object members))) with
  | stopped => exact keys name value held ended
  | refused =>
    rw [ended] at stops
    cases stops
  | accepted =>
    rw [ended] at stops
    exact values name value held stops

section Shapes

variable {mode : ShapeMode} {defaults : Option Defaults} {fields : Members Schema}
  {members : Members Value}

/-- An object is accepted if its names are known, where they are not free, and every declared name
that is not skipped is accepted. -/
theorem of_checkShape_eq_accepted_iff (declaredOnce : fields.names.Nodup)
    (distinct : members.names.Nodup) :
    of (Schema.checkShape check mode defaults fields members) = accepted ↔
      (mode ≠ .extensible → ∀ name ∈ members.names, name ∈ fields.names) ∧
      ∀ name schema, (name, schema) ∈ fields → ¬ Schema.Skips mode defaults members name →
        of (check schema (Schema.candidate defaults members name) (some (.object members))) =
          accepted := by
  rw [of_checkShape, visitAll, of_gather_eq_accepted_iff reported_visit]
  -- There are slots for undeclared names, where names are not free, and for those examined.
  simp only [Schema.mem_shapeSlots declaredOnce distinct]
  constructor
  · intro each
    refine ⟨fun strict name held => ?_, fun name schema declared examined => ?_⟩
    · -- The slot of an undeclared name would refuse what it holds.
      by_contra undeclared
      obtain ⟨value, held⟩ := Members.exists_of_mem_names held
      have visited := each _ (.inl ⟨name, value, held, undeclared, strict, rfl⟩)
      rw [of_visit_undeclared _ rfl] at visited
      cases visited
    · have visited := each _ (.inr ⟨name, schema, declared, examined, rfl⟩)
      rwa [of_visit _ rfl] at visited
  · intro accepts slot among
    obtain ⟨known, each⟩ := accepts
    rcases among with ⟨name, value, held, undeclared, strict, _⟩ |
      ⟨name, schema, declared, examined, rfl⟩
    · exact absurd (known strict name (Members.mem_names held)) undeclared
    · rw [of_visit _ rfl]
      exact each name schema declared examined

/-- The check of an object stops if that of a declared name does that is not skipped. -/
theorem of_checkShape_eq_stopped_iff (declaredOnce : fields.names.Nodup)
    (distinct : members.names.Nodup) :
    of (Schema.checkShape check mode defaults fields members) = stopped ↔
      ∃ name schema, (name, schema) ∈ fields ∧ ¬ Schema.Skips mode defaults members name ∧
        of (check schema (Schema.candidate defaults members name) (some (.object members))) =
          stopped := by
  rw [of_checkShape, visitAll, of_gather_eq_stopped_iff]
  simp only [Schema.mem_shapeSlots declaredOnce distinct]
  constructor
  · intro stops
    obtain ⟨slot, among, stops⟩ := stops
    rcases among with ⟨name, value, _, _, _, rfl⟩ | ⟨name, schema, declared, examined, rfl⟩
    · -- The slot of an undeclared name refuses without a check.
      rw [of_visit_undeclared _ rfl] at stops
      cases stops
    · rw [of_visit _ rfl] at stops
      exact ⟨name, schema, declared, examined, stops⟩
  · intro stops
    obtain ⟨name, schema, declared, examined, stops⟩ := stops
    exact ⟨_, .inr ⟨name, schema, declared, examined, rfl⟩, by rwa [of_visit _ rfl]⟩

end Shapes

end Containers

end Fate

end Conform
