import Conform.Proofs.Schema.Fate
import Conform.Proofs.Schema.Reordering

/-! The checks of two values that differ in order alone come to the same end, container by
container. -/

namespace Conform.Schema

/-- Two runs end alike: if both accept, what they accept differs in order alone. -/
inductive Alike {ε ε' : Type} : Run (Except ε Value) → Run (Except ε' Value) → Prop where
  | accepted {value other : Value} (reordered : value.Reordered other) :
      Alike (.ok (.ok value)) (.ok (.ok other))
  -- Which failures come is left open: their order follows that of the members.
  | refused {error : ε} {error' : ε'} : Alike (.ok (.error error)) (.ok (.error error'))
  | stopped {reason reason' : Stop} : Alike (.error reason) (.error reason')

namespace Alike

variable {ε ε' : Type} {first : Run (Except ε Value)} {second : Run (Except ε' Value)}

/-- Runs that end alike end in the same way. -/
theorem fate_eq (alike : Alike first second) : Fate.of first = Fate.of second := by
  cases alike <;> rfl

/-- What runs that end alike accept differs in order alone. -/
theorem reordered {value other : Value} (alike : Alike first second)
    (accepts : first = .ok (.ok value)) (acceptsToo : second = .ok (.ok other)) :
    value.Reordered other := by
  -- Of runs that end alike, two that accept have values that differ in order alone.
  subst accepts acceptsToo
  cases alike
  assumption

/-- Runs end alike if they end in the same way and what they accept differs in order alone. -/
theorem of_fate_eq (same : Fate.of first = Fate.of second)
    (accepted : ∀ value other, first = .ok (.ok value) → second = .ok (.ok other) →
      value.Reordered other) : Alike first second := by
  -- Of the nine pairs of ends only those of one fate are left: both accept, refuse or stop.
  rcases first with reason | error | value <;> rcases second with reason' | error' | other <;>
    simp only [Fate.of, reduceCtorEq] at same
  · exact .stopped
  · exact .refused
  · exact .accepted (accepted value other rfl rfl)

/-- Runs that end alike still do when they go on, if what is accepted stays accepted as it is and what
is refused stays refused. -/
theorem andThen {δ δ' : Type} {next : Except ε Value → Run (Except δ Value)}
    {next' : Except ε' Value → Run (Except δ' Value)} (alike : Alike first second)
    (accepts : ∀ value, next (.ok value) = .ok (.ok value))
    (accepts' : ∀ value, next' (.ok value) = .ok (.ok value))
    (refuses : ∀ error, ∃ put, next (.error error) = .ok (.error put))
    (refuses' : ∀ error, ∃ put, next' (.error error) = .ok (.error put)) :
    Alike (first >>= next) (second >>= next') := by
  cases alike with
  | @accepted value other reordered =>
    -- The continuations see an outcome on either side, and so can be asked what they do with it.
    show Alike (next (.ok value)) (next' (.ok other))
    rw [accepts, accepts']
    exact .accepted reordered
  | @refused error error' =>
    obtain ⟨put, refused⟩ := refuses error
    obtain ⟨put', refused'⟩ := refuses' error'
    show Alike (next (.error error)) (next' (.error error'))
    rw [refused, refused']
    exact .refused
  | stopped => exact .stopped

end Alike

/-- Two checkers agree on two schemas: values that differ in order alone, in containers that do, are
checked alike. -/
def Agree (check check' : Checker) (schema schema' : Schema) : Prop :=
  ∀ value value' parent parent', value.WellFormed → value.Reordered value' →
    Option.Rel Value.Reordered parent parent' →
      Alike (check schema value parent) (check' schema' value' parent')

section Containers

variable {check check' : Checker} {defaults : Option Defaults} {mode : ShapeMode}
  {fields fields' : Members Schema} {members members' : Members Value}

/-- What the two sides of a check have in common when objects that differ in order alone are checked
against shapes that do. -/
structure Counterparts (check check' : Checker) (mode : ShapeMode) (defaults : Option Defaults)
    (fields fields' : Members Schema) (members members' : Members Value) : Prop where
  declaredOnce : fields.names.Nodup
  declared : fields.names.Perm fields'.names
  distinct : members.names.Nodup
  names : members.names.Perm members'.names
  read : ∀ name, Option.Rel Value.Reordered (members.get? name) (members'.get? name)
  -- A default may be asked about the container here, so this is not read off the names.
  skips : ∀ name, Skips mode defaults members name ↔ Skips mode defaults members' name
  alike : ∀ name schema schema', (name, schema) ∈ fields → (name, schema') ∈ fields' →
    Alike (check schema (candidate defaults members name) (some (.object members)))
      (check' schema' (candidate defaults members' name) (some (.object members')))

namespace Counterparts

/-- A name that is declared and examined on the one side is so on the other. -/
theorem exists_counterpart
    (sides : Counterparts check check' mode defaults fields fields' members members')
    {name : String} {schema : Schema} (among : (name, schema) ∈ fields)
    (examined : ¬ Skips mode defaults members name) :
    ∃ schema', (name, schema') ∈ fields' ∧ ¬ Skips mode defaults members' name ∧
      Alike (check schema (candidate defaults members name) (some (.object members)))
        (check' schema' (candidate defaults members' name) (some (.object members'))) := by
  -- Both sides declare the same names, and skip the same ones.
  obtain ⟨schema', among'⟩ :=
    Members.exists_of_mem_names (sides.declared.mem_iff.1 (Members.mem_names among))
  exact ⟨schema', among', fun skipped => examined ((sides.skips name).2 skipped),
    sides.alike name schema schema' among among'⟩

/-- A name that is declared and examined on the other side is so on the one. -/
theorem exists_origin
    (sides : Counterparts check check' mode defaults fields fields' members members')
    {name : String} {schema' : Schema} (among' : (name, schema') ∈ fields')
    (examined : ¬ Skips mode defaults members' name) :
    ∃ schema, (name, schema) ∈ fields ∧ ¬ Skips mode defaults members name ∧
      Alike (check schema (candidate defaults members name) (some (.object members)))
        (check' schema' (candidate defaults members' name) (some (.object members'))) := by
  -- Both sides declare the same names, and skip the same ones.
  obtain ⟨schema, among⟩ :=
    Members.exists_of_mem_names (sides.declared.mem_iff.2 (Members.mem_names among'))
  exact ⟨schema, among, fun skipped => examined ((sides.skips name).1 skipped),
    sides.alike name schema schema' among among'⟩

/-- Both sides end in the same way. -/
theorem fate_eq
    (sides : Counterparts check check' mode defaults fields fields' members members') :
    Fate.of (checkShape check mode defaults fields members) =
      Fate.of (checkShape check' mode defaults fields' members') := by
  have declaredOnce' := sides.declared.nodup_iff.1 sides.declaredOnce
  have distinct' := sides.names.nodup_iff.1 sides.distinct
  -- The slots of the two sides stand in different orders, so they are not compared one by one.
  -- Whether all accept and whether some stop is instead asked of the names behind them.
  refine Fate.eq_of_iff ?_ ?_
  · rw [Fate.of_checkShape_eq_accepted_iff sides.declaredOnce sides.distinct,
      Fate.of_checkShape_eq_accepted_iff declaredOnce' distinct']
    refine and_congr (by simp only [sides.names.mem_iff, sides.declared.mem_iff]) ?_
    constructor
    · intro all name schema' among' examined
      obtain ⟨schema, among, examined, alike⟩ := sides.exists_origin among' examined
      exact alike.fate_eq ▸ all name schema among examined
    · intro all name schema among examined
      obtain ⟨schema', among', examined, alike⟩ := sides.exists_counterpart among examined
      exact alike.fate_eq.trans (all name schema' among' examined)
  · rw [Fate.of_checkShape_eq_stopped_iff sides.declaredOnce sides.distinct,
      Fate.of_checkShape_eq_stopped_iff declaredOnce' distinct']
    constructor
    · intro stops
      obtain ⟨name, schema, among, examined, stops⟩ := stops
      obtain ⟨schema', among', examined, alike⟩ := sides.exists_counterpart among examined
      exact ⟨name, schema', among', examined, alike.fate_eq ▸ stops⟩
    · intro stops
      obtain ⟨name, schema', among', examined, stops⟩ := stops
      obtain ⟨schema, among, examined, alike⟩ := sides.exists_origin among' examined
      exact ⟨name, schema, among, examined, alike.fate_eq.trans stops⟩

/-- What both sides accept differs in order alone. -/
theorem accepted_reordered
    (sides : Counterparts check check' mode defaults fields fields' members members')
    {accepted accepted' : Members Value}
    (accepts : ShapeAccepts check mode defaults fields members accepted)
    (accepts' : ShapeAccepts check' mode defaults fields' members' accepted') :
    (Value.object accepted).Reordered (.object accepted') := by
  -- A skipped name is absent from both results, and an undeclared one keeps what it held.
  refine .of_get? accepts.distinct accepts'.distinct fun name => ?_
  by_cases among : name ∈ fields.names
  · obtain ⟨schema, among⟩ := Members.exists_of_mem_names among
    by_cases skipped : Skips mode defaults members name
    · rw [accepts.skipped name skipped, accepts'.skipped name ((sides.skips name).1 skipped)]
      exact .none
    · obtain ⟨schema', among', examined, alike⟩ := sides.exists_counterpart among skipped
      obtain ⟨made, checked, holds⟩ := accepts.examined name schema among skipped
      obtain ⟨made', checked', holds'⟩ := accepts'.examined name schema' among' examined
      have reordered := alike.reordered checked checked'
      -- What is made of the name is kept on both sides or on neither.
      rw [holds, holds', Members.contains_congr sides.names.mem_iff, reordered.isUndefined_eq]
      split
      · exact .some reordered
      · exact .none
  · rw [accepts.undeclared name among,
      accepts'.undeclared name fun among' => among (sides.declared.mem_iff.2 among')]
    exact sides.read name

end Counterparts

/-- Objects that differ in order alone are checked alike against shapes that do. -/
theorem checkShape_alike (declaredOnce : fields.names.Nodup)
    (declared : fields.names.Perm fields'.names)
    (soundDefaults : ∀ given, defaults = some given → given.WellFormed)
    (blind : ∀ given, defaults = some given → given.OrderBlind)
    (sound : (Value.object members).WellFormed)
    (values : (Value.object members).Reordered (.object members'))
    (each : ∀ name schema schema', fields.get? name = some schema →
      fields'.get? name = some schema' → Agree check check' schema schema') :
    Alike (checkShape check mode defaults fields members)
      (checkShape check' mode defaults fields' members') := by
  have declaredOnce' := declared.nodup_iff.1 declaredOnce
  obtain ⟨distinct, _⟩ := (Value.wellFormed_object members).1 sound
  obtain ⟨_, same, names, read⟩ := values.of_object
  cases same
  have sides : Counterparts check check' mode defaults fields fields' members members' :=
    { declaredOnce, declared, distinct, names, read
      skips := skips_iff blind values
      -- A name has one value on each side, whichever place it is declared at.
      alike := fun name schema schema' among among' =>
        each name schema schema' (Members.get?_of_mem declaredOnce among)
          (Members.get?_of_mem declaredOnce' among') _ _ _ _
          (wellFormed_candidate soundDefaults sound name)
          (candidate_reordered blind values name) (.some values) }
  refine .of_fate_eq sides.fate_eq fun value value' checked checked' => ?_
  obtain ⟨accepted, rfl, accepts⟩ := checkShape_eq_ok declaredOnce distinct checked
  obtain ⟨accepted', rfl, accepts'⟩ :=
    checkShape_eq_ok declaredOnce' (names.nodup_iff.1 distinct) checked'
  exact sides.accepted_reordered accepts accepts'

/-- Arrays whose elements differ in order alone are checked alike against schemas that do. -/
theorem checkList_alike {items items' : List Value} {element element' : Schema}
    (sound : (Value.array items).WellFormed)
    (values : (Value.array items).Reordered (.array items'))
    (below : Agree check check' element element') :
    Alike (checkItems check items (listSlots element items))
      (checkItems check' items' (listSlots element' items')) := by
  obtain ⟨_, same, length, read⟩ := values.of_array
  cases same
  have alike : ∀ (place : Nat) old new, items[place]? = some old → items'[place]? = some new →
      Alike (check element old (some (.array items)))
        (check' element' new (some (.array items'))) := by
    intro place old new held given
    have reordered := read place
    rw [held, given] at reordered
    cases reordered with
    | some reordered =>
      exact below _ _ _ _ ((Value.wellFormed_array items).1 sound old (List.mem_of_getElem? held))
        reordered (.some values)
  -- Slot by slot, both sides end in the same way.
  have slots : List.Forall₂ (fun slot slot' => Fate.of (slot.visit check (.array items)) =
      Fate.of (slot'.visit check' (.array items'))) (listSlots element items)
      (listSlots element' items') := by
    refine List.forall₂_iff_get.2 ⟨by simp [listSlots, length], fun place inside inside' => ?_⟩
    simp only [listSlots, List.get_eq_getElem, List.getElem_mapIdx, List.length_mapIdx]
      at inside inside' ⊢
    rw [Fate.of_visit _ rfl, Fate.of_visit _ rfl]
    exact (alike place _ _ (List.getElem?_eq_getElem inside)
      (List.getElem?_eq_getElem inside')).fate_eq
  refine .of_fate_eq ?_ fun value value' checked checked' => ?_
  · rw [Fate.of_checkItems, Fate.of_checkItems, Fate.of_visitAll_eq slots]
  -- Arrays keep the order of their elements, so the results are compared place by place.
  · obtain ⟨results, rfl, each⟩ := checkItems_list_eq_ok_iff.1 checked
    obtain ⟨results', rfl, each'⟩ := checkItems_list_eq_ok_iff.1 checked'
    have lengths := each.length_eq
    have lengths' := each'.length_eq
    refine .array (by omega) fun place made made' given given' => ?_
    obtain ⟨inside, _⟩ := List.getElem?_eq_some_iff.1 given
    have held := List.getElem?_eq_getElem (show place < items.length by omega)
    have held' := List.getElem?_eq_getElem (show place < items'.length by omega)
    exact (alike place _ _ held held').reordered (related_at each held given)
      (related_at each' held' given')

/-- Arrays whose elements differ in order alone are checked alike against tuples that do. -/
theorem checkTuple_alike {items items' : List Value} {schemas schemas' : List Schema}
    (sound : (Value.array items).WellFormed)
    (values : (Value.array items).Reordered (.array items'))
    (each : List.Forall₂ (Agree check check') schemas schemas') :
    Alike (checkItems check items (tupleSlots schemas items))
      (checkItems check' items' (tupleSlots schemas' items')) := by
  obtain ⟨_, same, length, read⟩ := values.of_array
  cases same
  have alike : ∀ (place : Nat) schema schema', schemas[place]? = some schema →
      schemas'[place]? = some schema' →
      Alike (check schema (items[place]?.getD .undefined) (some (.array items)))
        (check' schema' (items'[place]?.getD .undefined) (some (.array items'))) := by
    intro place schema schema' declared declared'
    exact related_at each declared declared' _ _ _ _ (sound.element place) (.getD (read place))
      (.some values)
  -- Both sides have as many places, be they declared or held.
  have lengths := each.length_eq
  have slots : List.Forall₂ (fun slot slot' => Fate.of (slot.visit check (.array items)) =
      Fate.of (slot'.visit check' (.array items'))) (tupleSlots schemas items)
      (tupleSlots schemas' items') := by
    rw [tupleSlots, tupleSlots, length, lengths, List.forall₂_map_left_iff,
      List.forall₂_map_right_iff, List.forall₂_same]
    intro place _
    by_cases inside : place < schemas.length
    · have declared := List.getElem?_eq_getElem inside
      have declared' := List.getElem?_eq_getElem (show place < schemas'.length by omega)
      rw [Fate.of_visit _ declared, Fate.of_visit _ declared']
      exact (alike place _ _ declared declared').fate_eq
    · -- A surplus place has a schema on neither side.
      rw [Fate.of_visit_undeclared _ (List.getElem?_eq_none (by omega)),
        Fate.of_visit_undeclared _ (List.getElem?_eq_none (by omega))]
  refine .of_fate_eq ?_ fun value value' checked checked' => ?_
  · rw [Fate.of_checkItems, Fate.of_checkItems, Fate.of_visitAll_eq slots]
  · obtain ⟨_, results, rfl, size, each⟩ := checkItems_tuple_eq_ok_iff.1 checked
    obtain ⟨_, results', rfl, size', each'⟩ := checkItems_tuple_eq_ok_iff.1 checked'
    refine .array (by omega) fun place made made' given given' => ?_
    obtain ⟨inside, _⟩ := List.getElem?_eq_some_iff.1 given
    have declared := List.getElem?_eq_getElem (show place < schemas.length by omega)
    have declared' := List.getElem?_eq_getElem (show place < schemas'.length by omega)
    exact (alike place _ _ declared declared').reordered (each place _ _ declared given)
      (each' place _ _ declared' given')

/-- Objects that differ in order alone are checked alike against dictionaries that do, if accepted
keys stay as they are. -/
theorem checkDict_alike {key key' item item' : Schema} (sound : (Value.object members).WellFormed)
    (values : (Value.object members).Reordered (.object members'))
    (kept : ∀ name result, check key (.string name) (some (.object members)) = .ok (.ok result) →
      result = .string name)
    (kept' : ∀ name result, check' key' (.string name) (some (.object members')) =
      .ok (.ok result) → result = .string name)
    (keys : Agree check check' key key') (entries : Agree check check' item item') :
    Alike (checkDict check key item members) (checkDict check' key' item' members') := by
  obtain ⟨distinct, sounds⟩ := (Value.wellFormed_object members).1 sound
  obtain ⟨_, same, names, read⟩ := values.of_object
  cases same
  have distinct' := names.nodup_iff.1 distinct
  -- Names are distinct, so a name leads to a single value on each side, and these are alike.
  have alike : ∀ name old new, (name, old) ∈ members → (name, new) ∈ members' →
      Alike (check item old (some (.object members)))
        (check' item' new (some (.object members'))) := by
    intro name old new held given
    have reordered := read name
    rw [Members.get?_of_mem distinct held, Members.get?_of_mem distinct' given] at reordered
    cases reordered with
    | some reordered => exact entries _ _ _ _ (sounds name old held) reordered (.some values)
  -- An entry comes to the same end as the one of its name on the other side.
  have fate : ∀ name old new, (name, old) ∈ members → (name, new) ∈ members' →
      Fate.of (checkEntry check key item (.object members) (name, old)) =
        Fate.of (checkEntry check' key' item' (.object members') (name, new)) := by
    intro name old new held given
    rw [Fate.of_checkEntry key item name old (kept name),
      Fate.of_checkEntry key' item' name new (kept' name),
      (keys _ _ _ _ (Value.wellFormed_string name) (.same _) (.some values)).fate_eq,
      (alike name old new held given).fate_eq]
  refine .of_fate_eq ?_ fun value value' checked checked' => ?_
  -- Each entry has its counterpart, wherever that stands on the other side.
  · rw [Fate.of_checkDict, Fate.of_checkDict]
    refine Fate.of_gather_eq (Fate.reported_checkEntry key item members)
      (Fate.reported_checkEntry key' item' members') (fun entry held => ?_) fun entry' given => ?_
    · obtain ⟨new, given⟩ :=
        Members.exists_of_mem_names (names.mem_iff.1 (Members.mem_names held))
      exact ⟨_, given, fate _ _ _ held given⟩
    · obtain ⟨old, held⟩ :=
        Members.exists_of_mem_names (names.mem_iff.2 (Members.mem_names given))
      exact ⟨_, held, fate _ _ _ held given⟩
  · obtain ⟨results, rfl, each⟩ := (checkDict_eq_ok_iff_of_kept distinct kept).1 checked
    obtain ⟨results', rfl, each'⟩ := (checkDict_eq_ok_iff_of_kept distinct' kept').1 checked'
    -- No key is renamed, so the names of the results are the names that were there before.
    have same := names_of_related each
    have same' := names_of_related each'
    refine .object (same ▸ distinct) (by rw [same, same']; exact names)
      fun name made made' given given' => ?_
    obtain ⟨⟨_, old⟩, held, rfl, _, checked⟩ :=
      exists_related each.flip _ (Members.mem_of_get? given)
    obtain ⟨⟨_, new⟩, held', rfl, _, checked'⟩ :=
      exists_related each'.flip _ (Members.mem_of_get? given')
    exact (alike _ old new held held').reordered checked checked'

end Containers

section Chains

variable {schemas schemas' : List Schema} {value value' : Value}

/-- Alternatives that are checked alike one by one are tried alike. -/
theorem firstAccepting_alike {check check' : Schema → Run Outcome}
    (each : List.Forall₂ (fun schema schema' => Alike (check schema) (check' schema')) schemas
      schemas') (first first' : Option ValidationError) :
    Alike (firstAccepting check schemas first) (firstAccepting check' schemas' first') := by
  induction each generalizing first first' with
  | nil => exact .refused
  | @cons schema schema' _ _ head _ ih =>
    rw [firstAccepting, firstAccepting]
    generalize check schema = run at head ⊢
    generalize check' schema' = run' at head ⊢
    -- The first alternative settles the question on both sides, or leaves it to the others on both.
    cases head with
    | accepted reordered => exact .accepted reordered
    | refused => exact ih _ _
    | stopped => exact .stopped

/-- Parts in a row that are checked alike one by one pass values on alike. -/
theorem passThrough_alike {check check' : Schema → Value → Run Outcome}
    (each : List.Forall₂ (fun schema schema' => ∀ value value', value.WellFormed →
      value.Reordered value' → Alike (check schema value) (check' schema' value')) schemas schemas')
    (stays : ∀ schema ∈ schemas, ∀ value accepted, value.WellFormed →
      check schema value = .ok (.ok accepted) → accepted.WellFormed)
    (sound : value.WellFormed) (values : value.Reordered value') :
    Alike (passThrough check schemas value) (passThrough check' schemas' value') := by
  induction each generalizing value value' with
  | nil => exact .accepted values
  | @cons schema schema' _ _ head _ ih =>
    have first := head value value' sound values
    have soundNext := stays schema List.mem_cons_self value
    rw [passThrough, passThrough]
    generalize check schema value = run at first soundNext ⊢
    generalize check' schema' value' = run' at first ⊢
    -- What the first part makes of the value is well-formed, and the others see it on both sides.
    cases first with
    | @accepted passed passed' reordered =>
      exact ih (fun part among => stays part (List.mem_cons_of_mem _ among))
        (soundNext passed sound rfl) reordered
    | refused => exact .refused
    | stopped => exact .stopped

end Chains

section Steps

variable {value value' : Value} {verdict verdict' : Verdict} {type type' : String}

/-- Verdicts that pass or fail together judge values that differ in order alone alike. -/
theorem judge_alike (same : verdict.isPass = verdict'.isPass) (values : value.Reordered value')
    (fixed : Bool) :
    Alike (.ok (judge verdict value type fixed)) (.ok (judge verdict' value' type' fixed)) := by
  -- A verdict that does not pass makes a failure of either value.
  by_cases passes : verdict.isPass = true
  · rw [judge_of_isPass passes, judge_of_isPass (same ▸ passes)]
    exact .accepted values
  · obtain ⟨_, _, refused⟩ := exists_failure_of_not_isPass passes value type fixed
    obtain ⟨_, _, refused'⟩ := exists_failure_of_not_isPass (same ▸ passes) value' type' fixed
    rw [refused, refused']
    exact .refused

/-- Tests that give the same answer accept values that differ in order alone alike. -/
theorem accept_alike {accepts accepts' : Bool} {error error' : ValidationError}
    (same : accepts = accepts') (values : value.Reordered value') :
    Alike (.ok (if accepts then .ok value else .error error))
      (.ok (if accepts' then .ok value' else .error error')) := by
  -- With the same answer both accept, or both refuse.
  subst same
  split
  · exact .accepted values
  · exact .refused

/-- Objects that differ in order alone enter alike where only objects may enter, and nothing else
does. -/
theorem object_alike {run run' : Run Outcome} {inside inside' : Members Value → Run Outcome}
    {error error' : ValidationError}
    (opens : run = match judge verdict value type true, value with
      | .error error, _ => .ok (.error error)
      | .ok _, .object members => inside members
      | .ok _, _ => .ok (.error error))
    (opens' : run' = match judge verdict' value' type' true, value' with
      | .error error, _ => .ok (.error error)
      | .ok _, .object members => inside' members
      | .ok _, _ => .ok (.error error'))
    (same : verdict.isPass = verdict'.isPass) (values : value.Reordered value')
    (enters : ∀ members members', value = .object members → value' = .object members' →
      Alike (inside members) (inside' members')) : Alike run run' := by
  subst opens opens'
  by_cases passes : verdict.isPass = true
  · rw [judge_of_isPass passes, judge_of_isPass (same ▸ passes)]
    -- Only containers differ at all, and of these the guard has let objects through.
    cases values with
    | same =>
      cases value with
      | object members => exact enters members members rfl rfl
      | _ => exact .refused
    | object => exact enters _ _ rfl rfl
    | array => exact .refused
  · obtain ⟨_, _, refused⟩ := exists_failure_of_not_isPass passes value type true
    obtain ⟨_, _, refused'⟩ := exists_failure_of_not_isPass (same ▸ passes) value' type' true
    rw [refused, refused']
    exact .refused

/-- Arrays whose elements differ in order alone enter alike where only arrays may enter, and nothing
else does. -/
theorem array_alike {run run' : Run Outcome} {inside inside' : List Value → Run Outcome}
    {error error' : ValidationError}
    (opens : run = match judge verdict value type true, value with
      | .error error, _ => .ok (.error error)
      | .ok _, .array items => inside items
      | .ok _, _ => .ok (.error error))
    (opens' : run' = match judge verdict' value' type' true, value' with
      | .error error, _ => .ok (.error error)
      | .ok _, .array items => inside' items
      | .ok _, _ => .ok (.error error'))
    (same : verdict.isPass = verdict'.isPass) (values : value.Reordered value')
    (enters : ∀ items items', value = .array items → value' = .array items' →
      Alike (inside items) (inside' items')) : Alike run run' := by
  subst opens opens'
  by_cases passes : verdict.isPass = true
  · rw [judge_of_isPass passes, judge_of_isPass (same ▸ passes)]
    -- Only containers differ at all, and of these the guard has let arrays through.
    cases values with
    | same =>
      cases value with
      | array items => exact enters items items rfl rfl
      | _ => exact .refused
    | object => exact .refused
    | array => exact enters _ _ rfl rfl
  · obtain ⟨_, _, refused⟩ := exists_failure_of_not_isPass passes value type true
    obtain ⟨_, _, refused'⟩ := exists_failure_of_not_isPass (same ▸ passes) value' type' true
    rw [refused, refused']
    exact .refused

/-- No container equals anything by reference, so order does not matter to that equality. -/
theorem strictlyEquals_eq (expected : Value) (values : value.Reordered value') :
    expected.strictlyEquals value = expected.strictlyEquals value' := by
  -- Values that differ at all are two objects or two arrays, and neither equals anything by
  -- reference.
  cases values with
  | same => rfl
  | object => cases expected <;> rfl
  | array => cases expected <;> rfl

/-- No container is included in a list, so order does not matter to that. -/
theorem includes_eq (expected : Value) (values : value.Reordered value') :
    expected.includes value = expected.includes value' := by
  -- Values that differ at all are two objects or two arrays, and neither is among listed values.
  cases values with
  | same => rfl
  | object => cases expected <;> rfl
  | array => cases expected <;> rfl

end Steps

end Conform.Schema
