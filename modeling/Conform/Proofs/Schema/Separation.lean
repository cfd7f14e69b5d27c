import Mathlib.Data.List.Pairwise
import Conform.Proofs.Schema.Kept
import Conform.Proofs.Schema.Location

/-! Every place that fails is reported once: the ways to two failures part before either of them ends. -/

namespace Conform

namespace Failure

/-- Failures at separate places: the way to neither of them begins with the whole way to the other. -/
def Apart (first second : Failure) : Prop :=
  ¬ first.path <+: second.path ∧ ¬ second.path <+: first.path

/-- Being apart goes both ways. -/
instance : Std.Symm Apart where
  symm _ _ apart := ⟨apart.2, apart.1⟩

variable {first second : Failure} {segment other : Segment} {container : Value}

/-- Seen from a container, two failures inside one of its places are as far apart as before. -/
theorem Apart.nest (apart : first.Apart second) :
    (first.nest segment container).Apart (second.nest segment container) := by
  -- Both ways have grown by the same first step.
  simpa [Apart, Failure.nest, List.cons_prefix_cons] using apart

/-- Ways that begin with the same way agree in their first step, if there is one. -/
theorem head?_eq_of_prefix (starts : first.path.head? = some segment)
    (begins : first.path <+: second.path) : second.path.head? = some segment := by
  -- The longer way goes on from where the shorter one ends.
  obtain ⟨onward, same⟩ := begins
  rw [← same, List.head?_append, starts, Option.some_or]

/-- Failures whose ways begin with different steps are apart. -/
theorem apart_of_ne (differs : segment ≠ other) (starts : first.path.head? = some segment)
    (startsToo : second.path.head? = some other) : first.Apart second := by
  -- A way that began with the other would share its first step.
  constructor
  · intro begins
    have same := head?_eq_of_prefix starts begins
    rw [startsToo] at same
    exact differs (Option.some.inj same).symm
  · intro begins
    have same := head?_eq_of_prefix startsToo begins
    rw [starts] at same
    exact differs (Option.some.inj same)

end Failure

/-- Failures that are apart from each other, all of them behind one step. -/
structure SeparateBehind (segment : Segment) (failures : List Failure) : Prop where
  separate : failures.Pairwise Failure.Apart
  behind : ∀ failure ∈ failures, failure.path.head? = some segment

/-- The failures of an error are as separate in a container, and lie behind the step to its place. -/
theorem separateBehind_nestedFailures {error : ValidationError}
    (separate : error.failures.Pairwise Failure.Apart) (segment : Segment) (container : Value) :
    SeparateBehind segment (error.nestedFailures segment container) where
  -- All ways have become longer by the same step.
  separate := List.pairwise_map.2 (separate.imp Failure.Apart.nest)
  -- That step comes first.
  behind := by
    intro failure among
    obtain ⟨inner, _, rfl⟩ := List.mem_map.1 among
    rfl

/-- Findings behind different steps report separate failures, if each of them does by itself. -/
theorem pairwise_reportedFailures {α β : Type} {step : α → Segment} {items : List α}
    {findings : List (Except (List Failure) β)} (distinct : (items.map step).Nodup)
    (each : List.Forall₂ (fun item finding =>
      SeparateBehind (step item) (reportedFailures finding)) items findings) :
    (findings.flatMap reportedFailures).Pairwise Failure.Apart := by
  -- The failures of the first finding are apart, as are those of the rest by induction.
  induction each with
  | nil => exact List.Pairwise.nil
  | @cons item finding items findings head tail ih =>
    obtain ⟨fresh, distinctRest⟩ := List.nodup_cons.1 distinct
    rw [List.flatMap_cons]
    refine List.pairwise_append.2 ⟨head.separate, ih distinctRest, ?_⟩
    -- A failure of a later finding lies behind another step.
    intro first found second later
    obtain ⟨other, among, inside⟩ := List.mem_flatMap.1 later
    obtain ⟨place, present, behind⟩ := exists_related tail.flip other among
    have differs : step item ≠ step place := fun same =>
      fresh (same ▸ List.mem_map_of_mem present)
    exact Failure.apart_of_ne differs (head.behind first found) (behind.behind second inside)

namespace Schema

/-- A checker refuses well-formed values with failures that are apart from each other. -/
def Separates (check : Checker) (schema : Schema) : Prop :=
  ∀ value parent error, value.WellFormed → check schema value parent = .ok (.error error) →
    error.failures.Pairwise Failure.Apart

variable {links : Links} {check : Checker} {schema : Schema} {value : Value}
  {parent : Option Value} {error : ValidationError}

/-- What a slot refuses its value with is separate and lies behind the step to the slot. -/
theorem separateBehind_of_refuses {container : Value} {slot : Slot} {failures : List Failure}
    (refuses : slot.Refuses check container failures) (sound : slot.value.WellFormed)
    (separates : ∀ field, slot.declared = some field → Separates check field) :
    SeparateBehind slot.segment failures := by
  rcases refuses with ⟨_, rfl⟩ | ⟨field, error, declared, refused, rfl⟩
  · -- Where nothing is declared, a single failure tells of what stands there.
    exact ⟨List.pairwise_singleton _ _, by simp⟩
  · exact separateBehind_nestedFailures (separates field declared _ _ error sound refused) _ _

/-- A visit of slots at different places fails with failures that are apart. -/
theorem separate_of_visitAll {container : Value} {slots : List Slot}
    (distinct : (slots.map Slot.segment).Nodup) (sound : ∀ slot ∈ slots, slot.value.WellFormed)
    (separates : ∀ slot ∈ slots, ∀ field, slot.declared = some field → Separates check field)
    (visited : visitAll check container slots = .ok (.error error)) :
    error.failures.Pairwise Failure.Apart := by
  -- The failures of one slot lie behind its step, and no two slots have the same step.
  obtain ⟨findings, each, _, all⟩ := visitAll_eq_error visited
  rw [all]
  refine pairwise_reportedFailures distinct ?_
  refine ((List.forall₂_and_left slots findings).2 ⟨fun _ among => among, each⟩).imp ?_
  intro slot finding visitedSlot
  obtain ⟨among, found⟩ := visitedSlot
  cases finding with
  | ok result => exact ⟨List.Pairwise.nil, by simp [reportedFailures]⟩
  | error failures =>
    exact separateBehind_of_refuses (Slot.visit_eq_error_iff.1 found) (sound slot among)
      (separates slot among)

/-- A dictionary fails with failures that are apart, if accepted keys stay as they are. -/
theorem separate_of_checkDict {key item : Schema} {members : Members Value}
    (separatesKey : Separates check key) (separatesItem : Separates check item)
    (kept : ∀ name parent accepted, check key (.string name) parent = .ok (.ok accepted) →
      accepted = .string name)
    (sound : (Value.object members).WellFormed)
    (checked : checkDict check key item members = .ok (.error error)) :
    error.failures.Pairwise Failure.Apart := by
  obtain ⟨distinct, values⟩ := (Value.wellFormed_object members).1 sound
  obtain ⟨findings, each, _, all⟩ := checkDict_eq_error checked
  have steps : (members.map fun entry => Segment.key entry.1).Nodup := by
    rw [Members.names_eq_map] at distinct
    exact List.pairwise_map.2 ((List.pairwise_map.1 distinct).imp fun differs same =>
      differs (Segment.key.inj same))
  rw [all]
  refine pairwise_reportedFailures steps ?_
  refine ((List.forall₂_and_left members findings).2 ⟨fun _ held => held, each⟩).imp ?_
  intro entry finding checkedEntry
  obtain ⟨held, found⟩ := checkedEntry
  cases finding with
  | ok result => exact ⟨List.Pairwise.nil, by simp [reportedFailures]⟩
  | error failures =>
    -- An entry is refused for its key or for what it holds, never for both.
    rcases entryRefuses_of_checkEntry found with
      ⟨error, refused, rfl⟩ | ⟨accepted, name, error, taken, read, refused, rfl⟩
    · exact separateBehind_nestedFailures
        (separatesKey _ _ error (Value.wellFormed_string entry.1) refused) _ _
    · -- The name under which the value is reported is still that of the entry.
      obtain rfl := kept entry.1 _ accepted taken
      have same : entry.1 = name := by simpa [keyText, Value.toText?] using read
      rw [same]
      exact separateBehind_nestedFailures
        (separatesItem _ _ error (values entry.1 entry.2 held) refused) _ _

/-- A step fails with failures that are apart, if the steps that it leads to do. -/
theorem Concludes.separate
    (concluded : Concludes links check schema value parent (.error error))
    (node : NamesDistinct schema) (sound : value.WellFormed)
    (kept : ∀ next, Leads links schema next → ∀ value parent accepted,
      check next value parent = .ok (.ok accepted) → value.Kept accepted)
    (keepsWellFormed : ∀ next, Leads links schema next → KeepsWellFormed check next)
    (below : ∀ next, Leads links schema next → Separates check next) :
    error.failures.Pairwise Failure.Apart := by
  -- Containers visit each place once, and all other nodes hand on the failures of one node.
  cases concluded with
  | refused => exact List.pairwise_singleton _ _
  | @shape label mode guard fields members _ _ _ checked =>
    have ⟨distinct, values⟩ := (Value.wellFormed_object members).1 sound
    refine separate_of_visitAll (nodup_segments_shapeSlots mode _ node.declared distinct)
      (fun slot among => ?_) (fun slot among field declared => ?_) (visitAll_of_checkShape checked)
    · rcases (mem_shapeSlots node.declared distinct).1 among with
        ⟨name, value, held, _, _, rfl⟩ | ⟨name, field, _, _, rfl⟩
      · exact values name value held
      · exact wellFormed_candidate node.defaults sound name
    · rcases (mem_shapeSlots node.declared distinct).1 among with
        ⟨_, _, _, _, _, rfl⟩ | ⟨name, _, entry, _, rfl⟩
      · cases declared
      · cases declared
        exact below _ (.field entry)
  -- The steps are the places, and each slot holds an element.
  | @list label guard element items _ _ _ checked =>
    refine separate_of_visitAll (nodup_segments_listSlots element items)
      (fun slot among => ?_) (fun slot among field declared => ?_) (visitAll_of_checkItems checked)
    · obtain ⟨place, item, held, rfl⟩ := mem_listSlots among
      exact (Value.wellFormed_array items).1 sound item (List.mem_of_getElem? held)
    · obtain ⟨place, item, _, rfl⟩ := mem_listSlots among
      cases declared
      exact below _ .element
  -- The steps are the places, and a slot may stand for a missing element.
  | @tuple label guard schemas items _ _ _ checked =>
    refine separate_of_visitAll (nodup_segments_tupleSlots schemas items)
      (fun slot among => ?_) (fun slot among field declared => ?_) (visitAll_of_checkItems checked)
    · obtain ⟨place, _, rfl⟩ := mem_tupleSlots.1 among
      exact sound.element place
    · obtain ⟨place, _, rfl⟩ := mem_tupleSlots.1 among
      exact below field (.item (List.mem_of_getElem? declared))
  | dict _ checked =>
    exact separate_of_checkDict (below _ .key) (below _ .entry)
      (fun name parent accepted taken => (kept _ .key _ _ _ taken).of_string) sound checked
  | @noAlternative label alternatives errors _ _ each =>
    rw [ValidationError.failures_retype]
    -- The failures are those of the first alternative, unless there is none.
    cases each with
    | nil => exact List.pairwise_singleton _ _
    | cons refused rest =>
      exact below _ (.alternative List.mem_cons_self) value parent _ sound refused
  | part checked =>
    rw [ValidationError.failures_retype]
    obtain ⟨before, part, after, passed, rfl, accepted, refused⟩ :=
      passThrough_eq_error_iff.1 checked
    -- What the parts in front have made of the value is as well-formed as the value.
    have soundPassed : passed.WellFormed :=
      (passThrough_relates (fun _ => trivial) (fun _ _ => trivial)
        (fun earlier among old new soundOld checkedPart =>
          ⟨(trivial : (fun _ _ => True) old new), keepsWellFormed earlier
            (.part (List.mem_append_left _ among)) old parent new soundOld checkedPart⟩)
        sound accepted).2
    exact below part (.part (by simp)) passed parent _ soundPassed refused
  | target known checked => exact below _ (.target known) value parent _ sound checked
  | selected checked => exact below _ (.selected value parent) value parent _ sound checked

/-- Where names are distinct at every node that can be reached, validation refuses well-formed values
with failures that are apart. -/
theorem separates_validate (depth : Nat) (nodes : Throughout links NamesDistinct schema) :
    Separates (validate links depth) schema := by
  -- The depth decreases with each step, whichever node it leads to.
  induction depth generalizing schema with
  | zero =>
    intro value parent error _ checked
    cases checked
  | succ depth ih =>
    intro value parent error sound checked
    have soundEffective := wellFormed_effective nodes.here.defaults sound parent
    exact (concludes_of_checkEffective checked).separate nodes.here soundEffective
      (fun _ _ _ _ _ => kept_validate)
      (fun next leads => wellFormed_validate depth (nodes.below leads))
      fun next leads => ih (nodes.below leads)

/-- A refused value has a failure, no two failures have the same way, and the way to none of them is
the beginning of the way to another. -/
theorem validate_failures_separate {depth : Nat} (nodes : Throughout links NamesDistinct schema)
    (sound : value.WellFormed)
    (checked : validate links depth schema value parent = .ok (.error error)) :
    error.failures ≠ [] ∧ (error.failures.map Failure.path).Nodup ∧
      ∀ first ∈ error.failures, ∀ second ∈ error.failures,
        first.path <+: second.path → first.path = second.path := by
  have separate := separates_validate depth nodes value parent error sound checked
  refine ⟨error.failures_ne_nil, ?_, ?_⟩
  · -- Equal ways would begin with each other.
    refine List.pairwise_map.2 (separate.imp fun apart same => ?_)
    exact apart.1 (same ▸ List.prefix_rfl)
  · intro first found second foundToo begins
    by_contra differs
    have distinct : first ≠ second := fun same => differs (congrArg Failure.path same)
    exact (separate.forall found foundToo distinct).1 begins

/-- A list that must be empty. -/
def emptyList : Schema :=
  .list ⟨"[nothing]", none⟩ (Registry.hasTag .array) nothing

/-- A dictionary of empty lists that lies over a level of its own. -/
def levels : Schema :=
  .dict ⟨"levels", some (.value (.object [("base", .null)]))⟩ (Registry.hasTag .object) unjudged
    emptyList

/-- The nodes of levels. -/
theorem throughout_levels : Throughout []
    (fun node => node = levels ∨ node = unjudged ∨ node = emptyList ∨ node = nothing) levels := by
  -- The dictionary leads to its keys and to its lists, and these to what may stand in them.
  refine .of_closed _ (.inl rfl) (fun node next among leads => ?_) fun _ among => among
  rcases among with rfl | rfl | rfl | rfl
  · cases leads
    · exact .inr (.inl rfl)
    · exact .inr (.inr (.inl rfl))
  · cases leads
  · cases leads
    exact .inr (.inr (.inr rfl))
  · cases leads

/-- The level of the default and both elements of another one fail, each at a place of its own. -/
theorem validate_failures_separate_levels :
    ∃ error, validate [] 3 levels (.object [("top", .array [.null, .null])]) none =
        .ok (.error error) ∧
      error.failures.map Failure.path =
        [[.key "base"], [.key "top", .index 0], [.key "top", .index 1]] ∧
      error.failures ≠ [] ∧ (error.failures.map Failure.path).Nodup ∧
      ∀ first ∈ error.failures, ∀ second ∈ error.failures,
        first.path <+: second.path → first.path = second.path := by
  -- The run is carried out, and the names are distinct in all four nodes.
  have sound : (Value.object [("top", .array [.null, .null])]).WellFormed := by
    simp [Value.WellFormed, Value.AllWellFormed, Value.MembersWellFormed, Members.names]
  have nodes : Throughout [] NamesDistinct levels := throughout_levels.imp fun node among => by
    rcases among with rfl | rfl | rfl | rfl
    · refine ⟨List.nodup_nil, fun defaults given => ?_⟩
      cases given
      exact .value (by simp [Value.WellFormed, Value.MembersWellFormed, Members.names])
    · exact ⟨List.nodup_nil, by simp [unjudged, Schema.defaults, label]⟩
    · exact ⟨List.nodup_nil, by simp [emptyList, Schema.defaults, label]⟩
    · exact ⟨List.nodup_nil, by simp [nothing, Schema.defaults, label]⟩
  obtain ⟨error, refused, paths⟩ : ∃ error,
      validate [] 3 levels (.object [("top", .array [.null, .null])]) none = .ok (.error error) ∧
        error.failures.map Failure.path =
          [[.key "base"], [.key "top", .index 0], [.key "top", .index 1]] := ⟨_, rfl, rfl⟩
  exact ⟨error, refused, paths, validate_failures_separate nodes sound refused⟩

end Schema

end Conform
