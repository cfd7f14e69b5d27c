import Conform.Proofs.Schema.Depth
import Conform.Proofs.Schema.Modes
import Conform.Proofs.Schema.Places

/-! A container with one schema for all of its places checks them as one does that spells the schema out
for each place. -/

namespace Conform

/-- Gathering findings whose results are mapped is mapping what is gathered. -/
theorem gather_map {α β : Type} (image : α → β) (findings : List (Except (List Failure) α)) :
    gather (findings.map (Except.map image)) = (gather findings).map (List.map image) := by
  -- Mapped findings report the same failures, and their results are the mapped ones.
  have reported : (findings.map (Except.map image)).flatMap reportedFailures =
      findings.flatMap reportedFailures := by
    rw [List.flatMap_map]
    exact List.flatMap_congr fun finding _ => by cases finding <;> rfl
  have results : (findings.map (Except.map image)).filterMap Except.toOption =
      (findings.filterMap Except.toOption).map image := by
    rw [List.filterMap_map, List.map_filterMap]
    exact List.filterMap_congr fun finding _ => by cases finding <;> rfl
  rw [gather_eq, gather_eq, reported, results]
  cases ValidationError.ofFailures? (findings.flatMap reportedFailures) <;> rfl

/-- Slots that all held something before turn into members without exception. -/
theorem checkedMembers_of_present {results : List (Slot × Value)}
    (present : ∀ result ∈ results, result.1.present = true) :
    Schema.checkedMembers results =
      results.map fun result => (result.1.segment.toText, result.2) := by
  -- Only what was absent before is ever left out.
  rw [Schema.checkedMembers, ← List.filterMap_eq_map]
  refine List.filterMap_congr fun result among => ?_
  simp [present result among]

namespace Schema

variable {links : Links} {check : Checker} {element key : Schema} {items : List Value}
  {members : Members Value} {guard : Predicate}

/-- The slots of a list are those of a tuple that has its schema for each element. -/
theorem listSlots_eq_tupleSlots (element : Schema) (items : List Value) :
    listSlots element items = tupleSlots (List.replicate items.length element) items := by
  -- Place by place the two have the same slot, and neither has more places than elements.
  apply List.ext_getElem
  · simp [listSlots, tupleSlots]
  · intro place inside _
    have within : place < items.length := by simpa [listSlots] using inside
    simp [listSlots, tupleSlots, within]

/-- The slots of an exact shape that declares one schema for each name of an object. -/
theorem shapeSlots_uniform (element : Schema) (members : Members Value) :
    shapeSlots .exact none (members.map fun member => (member.1, element)) members =
      members.map fun member => ⟨.key member.1, some element, member.2, true⟩ := by
  have declared : ∀ member ∈ members,
      Members.get? (members.map fun member => (member.1, element)) member.1 = some element := by
    intro member among
    have held := (Members.contains_iff members member.1).2 (Members.mem_names among)
    obtain ⟨value, found⟩ := Option.isSome_iff_exists.1 held
    rw [Members.get?_map fun _ => element, found, Option.map_some]
  -- No declared name is absent.
  have nothing : (members.map fun member => (member.1, element)).filter
      (fun field => !Members.contains members field.1) = [] := by
    refine filter_absent_eq_nil fun field among => ?_
    obtain ⟨member, held, rfl⟩ := List.mem_map.1 among
    exact Members.mem_names held
  simp only [shapeSlots, nothing, List.map_nil, List.append_nil]
  refine List.map_congr_left fun member among => ?_
  simp only [memberSlot, declared member among, fieldValue]

/-- The entry of a dictionary whose key stays as it is is checked as the slot of its name. -/
theorem map_visit_eq_checkEntry {container : Value} {name : String} (value : Value)
    (kept : check key (.string name) (some container) = .ok (.ok (.string name))) :
    (Slot.visit check container ⟨.key name, some element, value, true⟩).map
        (Except.map fun result => (result.1.segment.toText, result.2)) =
      checkEntry check key element container (name, value) := by
  simp only [Slot.visit, checkEntry, kept]
  -- The check of the value stops, refuses or accepts.
  rcases check element value (some container) with reason | error | accepted <;> rfl

/-- An object whose names are accepted as keys is checked by a dictionary as by an exact shape that
declares the schema of the values for each of its names. -/
theorem checkDict_eq_checkShape (kept : ∀ name ∈ members.names,
      check key (.string name) (some (.object members)) = .ok (.ok (.string name))) :
    checkDict check key element members =
      checkShape check .exact none (members.map fun member => (member.1, element)) members := by
  let slots : List Slot :=
    members.map fun member => ⟨.key member.1, some element, member.2, true⟩
  let entry : Slot × Value → String × Value := fun result => (result.1.segment.toText, result.2)
  have ran : (slots.mapM (Slot.visit check (.object members))).map (List.map (Except.map entry)) =
      members.mapM (checkEntry check key element (.object members)) := by
    refine map_mapM (List.forall₂_map_left_iff.2 (List.forall₂_same.2 fun member among => ?_))
    exact map_visit_eq_checkEntry member.2 (kept member.1 (Members.mem_names among))
  -- Either all of them come to findings, or both runs stop for the same reason.
  rw [checkDict, checkShape, shapeSlots_uniform, ← ran]
  show _ = (visitAll check (.object members) slots >>= _)
  cases visited : slots.mapM (Slot.visit check (.object members)) with
  | error reason =>
    rw [visitAll, visited]
    rfl
  | ok findings =>
    have gathers : visitAll check (.object members) slots = .ok (gather findings) := by
      rw [visitAll, visited]
      rfl
    show Except.ok ((gather (findings.map (Except.map entry))).map Value.ofPairs) = _
    rw [gathers, gather_map]
    cases gathered : gather findings with
    | error error => rfl
    | ok results =>
      -- Every slot stands for a name that the object holds, so none is left out.
      have present : ∀ result ∈ results, result.1.present = true := by
        intro result among
        rw [gathered] at gathers
        obtain ⟨slot, held, same, _⟩ := exists_related (visitAll_eq_ok_iff.1 gathers).flip _ among
        obtain ⟨member, _, rfl⟩ := List.mem_map.1 held
        rw [same]
      show Except.ok (Except.ok (Value.ofPairs (results.map entry))) =
        Except.ok (Except.ok (.object (Members.insertAll [] (checkedMembers results))))
      rw [checkedMembers_of_present present]
      rfl

/-- A list makes the same of an array as a tuple that has its schema for each element. -/
theorem validate_list_eq_validate_tuple {scope : Scope} {list tuple : Schema}
    (builtList : scope.list element none = .ok list)
    (builtTuple : scope.tuple (List.replicate items.length element) none = .ok tuple)
    (registered : scope.registry.get? "array" = some guard)
    (passes : (guard (.array items) none).isPass = true)
    (links : Links) (depth : Nat) (parent : Option Value) :
    validate links depth list (.array items) parent =
      validate links depth tuple (.array items) parent := by
  simp only [Scope.list, Scope.tuple, Scope.predicate, registered] at builtList builtTuple
  obtain rfl := Except.ok.inj builtList
  obtain rfl := Except.ok.inj builtTuple
  cases depth with
  | zero => rfl
  | succ depth =>
    -- Both come down to checking the same slots.
    simp only [validate, effective, Schema.defaults, label, checkEffective,
      judge_of_isPass passes, listSlots_eq_tupleSlots]

/-- A dictionary makes the same of an object whose names it accepts as keys as an exact shape that
declares the schema of its values for each name. -/
theorem validate_dict_eq_validate_shape {scope : Scope} {dictionary exact : Schema}
    (builtDict : scope.dict key element none = .ok dictionary)
    (builtShape : scope.shape .exact (members.map fun member => (member.1, element)) none =
      .ok exact)
    (registered : scope.registry.get? "object" = some guard)
    (passes : (guard (.object members) none).isPass = true)
    {reached depth : Nat} (accepted : ∀ name ∈ members.names, ∃ made,
      validate links reached key (.string name) (some (.object members)) = .ok (.ok made))
    (deeper : reached < depth) (parent : Option Value) :
    validate links depth dictionary (.object members) parent =
      validate links depth exact (.object members) parent := by
  obtain rfl := eq_shape_of_built builtShape registered
  simp only [Scope.dict, Scope.predicate, registered] at builtDict
  obtain rfl := Except.ok.inj builtDict
  obtain ⟨below, rfl⟩ := Nat.exists_eq_succ_of_ne_zero (Nat.ne_zero_of_lt deeper)
  -- A key that is accepted stays as it is, also by a check that may go deeper.
  have kept : ∀ name ∈ members.names,
      validate links below key (.string name) (some (.object members)) =
        .ok (.ok (.string name)) := by
    intro name held
    obtain ⟨made, checked⟩ := accepted name held
    obtain rfl := (kept_validate checked).of_string
    exact validate_of_le (Nat.le_of_lt_succ deeper) _ _ _ _ checked
  rw [validate_bare_shape below parent passes]
  simp only [validate, effective, Schema.defaults, label, checkEffective, judge_of_isPass passes,
    checkDict_eq_checkShape kept]

/-- A container with one schema for all of its places agrees with the one that spells the schema out
for each of them, about every value that its guard lets in: a list with a tuple of as many items as the
array has elements, and a dictionary with an exact shape of the names of the object, if it accepts these
as keys. -/
theorem uniform_agrees_with_spelled_out (scope : Scope) (element : Schema) :
    (∀ items list tuple guard, scope.list element none = .ok list →
      scope.tuple (List.replicate items.length element) none = .ok tuple →
      scope.registry.get? "array" = some guard → (guard (.array items) none).isPass = true →
      ∀ links depth parent, validate links depth list (.array items) parent =
        validate links depth tuple (.array items) parent) ∧
    ∀ key (members : Members Value) dictionary exact guard,
      scope.dict key element none = .ok dictionary →
      scope.shape .exact (members.map fun member => (member.1, element)) none = .ok exact →
      scope.registry.get? "object" = some guard → (guard (.object members) none).isPass = true →
      ∀ links reached, (∀ name ∈ members.names, ∃ made,
        validate links reached key (.string name) (some (.object members)) = .ok (.ok made)) →
      ∀ depth parent, reached < depth →
        validate links depth dictionary (.object members) parent =
          validate links depth exact (.object members) parent := by
  -- The two sorts of containers have been compared by themselves.
  constructor
  · intro items list tuple guard builtList builtTuple registered passes
    exact validate_list_eq_validate_tuple builtList builtTuple registered passes
  · intro key members dictionary exact guard builtDict builtShape registered passes links reached
      accepted depth parent deeper
    exact validate_dict_eq_validate_shape builtDict builtShape registered passes accepted deeper
      parent

/-- A registry of arrays and objects. -/
def containers : Registry :=
  objects.register "array" (Registry.hasTag .array)

/-- A text, or a dash where there is none. -/
def entry : Schema :=
  .scalar ⟨"string", some (.value (.string "-"))⟩ (Registry.hasTag .string)

/-- Three entries in a row, one of them missing and one no text. -/
def row : List Value :=
  [.string "x", .undefined, .null]

/-- The same entries under names. -/
def cells : Members Value :=
  [("a", .string "x"), ("b", .undefined), ("c", .null)]

/-- A row and its cells are refused alike, whether all entries are declared at once or one by one. -/
theorem uniform_agrees_with_spelled_out_row : ∃ list tuple dictionary exact,
    Scope.list ⟨containers, []⟩ entry none = .ok list ∧
      Scope.tuple ⟨containers, []⟩ [entry, entry, entry] none = .ok tuple ∧
      Scope.dict ⟨containers, []⟩ (.scalar ⟨"string", none⟩ (Registry.hasTag .string)) entry none =
        .ok dictionary ∧
      Scope.shape ⟨containers, []⟩ .exact [("a", entry), ("b", entry), ("c", entry)] none =
        .ok exact ∧
      validate [] 2 list (.array row) none = validate [] 2 tuple (.array row) none ∧
      validate [] 2 dictionary (.object cells) none = validate [] 2 exact (.object cells) none := by
  obtain ⟨rows, objects⟩ := uniform_agrees_with_spelled_out ⟨containers, []⟩ entry
  refine ⟨_, _, _, _, rfl, rfl, rfl, rfl, rows row _ _ _ rfl rfl rfl rfl [] 2 none, ?_⟩
  refine objects _ cells _ _ _ rfl rfl rfl rfl [] 1 ?_ 2 none (by simp)
  -- Every text is a key.
  exact fun name _ => ⟨.string name, rfl⟩

end Schema

end Conform
