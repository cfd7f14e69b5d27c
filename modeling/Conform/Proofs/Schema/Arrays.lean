import Conform.Proofs.Schema.Visit

/-! What the check of an array accepts, place by place. -/

namespace Conform

/-- Relating a list under its places is relating its elements, if the places do not matter. -/
theorem forall₂_mapIdx_left_iff {α β γ : Type} {relation : β → γ → Prop}
    {plain : α → γ → Prop} {place : Nat → α → β} {items : List α} {results : List γ}
    (same : ∀ index item result, relation (place index item) result ↔ plain item result) :
    List.Forall₂ relation (items.mapIdx place) results ↔ List.Forall₂ plain items results := by
  -- Behind the first element, the rest stands one place further on.
  induction items generalizing place results with
  | nil => simp
  | cons item rest ih =>
    cases results with
    | nil => simp
    | cons result others =>
      simp only [List.mapIdx_cons, List.forall₂_cons, same 0]
      rw [ih fun index => same (index + 1)]

/-- A list related to the numbers below a bound has that many elements, each related to its place. -/
theorem forall₂_range_left_iff {β γ : Type} {relation : β → γ → Prop} {place : Nat → β}
    {count : Nat} {results : List γ} :
    List.Forall₂ relation ((List.range count).map place) results ↔
      results.length = count ∧
        ∀ index result, results[index]? = some result → relation (place index) result := by
  -- The number at a place is the place.
  rw [List.forall₂_iff_get]
  simp only [List.length_map, List.length_range, List.get_eq_getElem, List.getElem_map,
    List.getElem_range]
  constructor
  · intro related
    obtain ⟨length, each⟩ := related
    refine ⟨length.symm, fun index result found => ?_⟩
    obtain ⟨inside, rfl⟩ := List.getElem?_eq_some_iff.1 found
    exact each index (by omega) inside
  · intro related
    obtain ⟨length, each⟩ := related
    exact ⟨length.symm, fun index _ inside => each index _ (List.getElem?_eq_getElem inside)⟩

/-- In related lists the elements of one place are related. -/
theorem related_at {α β : Type} {relation : α → β → Prop} {items : List α} {results : List β}
    (related : List.Forall₂ relation items results) {place : Nat} {item : α} {result : β}
    (found : items[place]? = some item) (given : results[place]? = some result) :
    relation item result := by
  -- Both elements lie inside their lists.
  obtain ⟨inside, rfl⟩ := List.getElem?_eq_some_iff.1 found
  obtain ⟨inside', rfl⟩ := List.getElem?_eq_some_iff.1 given
  exact (List.forall₂_iff_get.1 related).2 place inside inside'

namespace Schema

variable {check : Checker} {items : List Value} {accepted : Value}

/-- An array is accepted when each of its slots is, and then it holds what they accept. -/
theorem checkItems_eq_ok_iff {slots : List Slot} :
    checkItems check items slots = .ok (.ok accepted) ↔
      ∃ results, accepted = .array results ∧
        List.Forall₂ (fun slot result => slot.Accepts check (.array items) result) slots results := by
  unfold checkItems
  simp only [bind_eq_ok_iff, Pure.pure, Except.pure, Except.ok.injEq]
  constructor
  · intro ran
    obtain ⟨outcome, visited, mapped⟩ := ran
    cases outcome with
    | error error => simp [Except.map] at mapped
    | ok results =>
      simp only [Except.map, Except.ok.injEq] at mapped
      -- Of the results only the values are kept, in the order of the slots.
      refine ⟨results.map Prod.snd, mapped.symm, ?_⟩
      exact List.forall₂_map_right_iff.2 ((visitAll_eq_ok_iff.1 visited).imp fun _ _ => And.right)
  · intro accepting
    obtain ⟨results, rfl, each⟩ := accepting
    -- The results stand beside the slots that they belong to.
    have visited : List.Forall₂ (fun slot result => result.1 = slot ∧
        slot.Accepts check (.array items) result.2) slots (slots.zip results) := by
      induction each with
      | nil => exact .nil
      | cons head _ ih => exact .cons ⟨rfl, head⟩ ih
    refine ⟨_, visitAll_eq_ok_iff.2 visited, ?_⟩
    simp [Except.map, List.map_snd_zip (Nat.le_of_eq each.length_eq.symm)]

/-- The error of an array is the one of the visit of its slots. -/
theorem visitAll_of_checkItems {slots : List Slot} {error : ValidationError}
    (checked : checkItems check items slots = .ok (.error error)) :
    visitAll check (.array items) slots = .ok (.error error) := by
  unfold checkItems at checked
  simp only [bind_eq_ok_iff, Pure.pure, Except.pure, Except.ok.injEq] at checked
  obtain ⟨outcome, visited, mapped⟩ := checked
  -- The error is handed on as it is.
  cases outcome with
  | ok results => simp [Except.map] at mapped
  | error found =>
    simp only [Except.map, Except.error.injEq] at mapped
    exact mapped ▸ visited

/-- Every failure of an array is one of a slot that refuses its value. -/
theorem exists_refusing_place {slots : List Slot} {error : ValidationError}
    (checked : checkItems check items slots = .ok (.error error)) :
    ∀ failure ∈ error.failures, ∃ slot ∈ slots, ∃ failures,
      slot.Refuses check (.array items) failures ∧ failure ∈ failures :=
  exists_refusing_slot (visitAll_of_checkItems checked)

/-- A list accepts what its schema accepts of each element. -/
theorem checkItems_list_eq_ok_iff {element : Schema} :
    checkItems check items (listSlots element items) = .ok (.ok accepted) ↔
      ∃ results, accepted = .array results ∧
        List.Forall₂ (fun item result => check element item (some (.array items)) = .ok (.ok result))
          items results := by
  rw [checkItems_eq_ok_iff]
  -- Every slot of a list has the one schema, so its place does not matter.
  refine exists_congr fun results => and_congr_right fun _ => ?_
  exact forall₂_mapIdx_left_iff fun index item result => by simp [Slot.Accepts]

/-- The slots of a list stand at its elements. -/
theorem mem_listSlots {element : Schema} {slot : Slot} (among : slot ∈ listSlots element items) :
    ∃ place item, items[place]? = some item ∧
      slot = ⟨.index place, some element, item, true⟩ := by
  -- Each slot comes from an element at its place.
  obtain ⟨place, inside, rfl⟩ := List.mem_mapIdx.1 among
  exact ⟨place, items[place], List.getElem?_eq_getElem inside, rfl⟩

/-- The slots of a tuple stand at its places and at those of the array. -/
theorem mem_tupleSlots {schemas : List Schema} {slot : Slot} :
    slot ∈ tupleSlots schemas items ↔ ∃ place, place < max items.length schemas.length ∧
      slot =
        ⟨.index place, schemas[place]?, items[place]?.getD .undefined, place < items.length⟩ := by
  simp [tupleSlots, eq_comm]

/-- The slots of a list stand at the places from the first to the last. -/
theorem segments_listSlots (element : Schema) (items : List Value) :
    (listSlots element items).map Slot.segment = (List.range items.length).map Segment.index := by
  -- There are as many of both, and the same stands at each place.
  apply List.ext_getElem
  · simp [listSlots]
  · intro place _ _
    simp [listSlots]

/-- No two slots of a list stand at one place. -/
theorem nodup_segments_listSlots (element : Schema) (items : List Value) :
    ((listSlots element items).map Slot.segment).Nodup := by
  -- The places are the numbers from zero on.
  rw [segments_listSlots]
  exact List.pairwise_map.2 (List.nodup_range.imp fun differs same =>
    differs (Segment.index.inj same))

/-- No two slots of a tuple stand at one place. -/
theorem nodup_segments_tupleSlots (schemas : List Schema) (items : List Value) :
    ((tupleSlots schemas items).map Slot.segment).Nodup := by
  -- The places are the numbers from zero on.
  rw [tupleSlots, List.map_map]
  exact List.pairwise_map.2 (List.nodup_range.imp fun differs same =>
    differs (Segment.index.inj same))

/-- A tuple accepts an array that is not longer than itself, filled up to its own length. -/
theorem checkItems_tuple_eq_ok_iff {schemas : List Schema} :
    checkItems check items (tupleSlots schemas items) = .ok (.ok accepted) ↔
      items.length ≤ schemas.length ∧
      ∃ results : List Value, accepted = .array results ∧ results.length = schemas.length ∧
        ∀ (place : Nat) schema result, schemas[place]? = some schema → results[place]? = some result →
          check schema (items[place]?.getD .undefined) (some (.array items)) =
            .ok (.ok result) := by
  rw [checkItems_eq_ok_iff]
  unfold tupleSlots
  simp only [forall₂_range_left_iff, Slot.Accepts]
  constructor
  · intro accepting
    obtain ⟨results, rfl, length, each⟩ := accepting
    -- A surplus place would have to accept, but nothing is declared for it.
    have fits : items.length ≤ schemas.length := by
      by_contra surplus
      have inside : schemas.length < results.length := by omega
      obtain ⟨schema, declared, _⟩ := each schemas.length _ (List.getElem?_eq_getElem inside)
      simp at declared
    refine ⟨fits, results, rfl, by omega, fun place schema result declared given => ?_⟩
    -- The slot of the place asks the schema that is declared for it.
    obtain ⟨schema', declared', checked⟩ := each place result given
    rw [declared] at declared'
    cases declared'
    exact checked
  · intro accepting
    obtain ⟨fits, results, rfl, length, each⟩ := accepting
    refine ⟨results, rfl, by omega, fun place result given => ?_⟩
    -- No place is surplus, so each has a schema.
    have inside : place < schemas.length := by
      obtain ⟨below, _⟩ := List.getElem?_eq_some_iff.1 given
      omega
    have declared := List.getElem?_eq_getElem inside
    exact ⟨_, declared, each place _ result declared given⟩

end Schema

end Conform
