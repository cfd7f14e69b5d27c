import Conform.Proofs.Members
import Conform.Proofs.Schema.Visit

/-! What the check of an object against a shape accepts, name by name. -/

namespace Conform

/-- The first of several results turns into a member unless it stays absent. -/
theorem checkedMembers_cons (result : Slot × Value) (rest : List (Slot × Value)) :
    Schema.checkedMembers (result :: rest) =
      if result.1.present || !result.2.isUndefined then
        (result.1.segment.toText, result.2) :: Schema.checkedMembers rest
      else Schema.checkedMembers rest := by
  -- The filter decides about the first result before it looks at the rest.
  obtain ⟨slot, value⟩ := result
  unfold Schema.checkedMembers
  rw [List.filterMap_cons]
  dsimp only
  by_cases kept : (slot.present || !value.isUndefined) = true
  · rw [if_pos kept, if_pos kept]
  · rw [if_neg kept, if_neg kept]

/-- Results turn into members under the names of some of their slots. -/
theorem names_checkedMembers_sublist (results : List (Slot × Value)) :
    (Members.names (Schema.checkedMembers results)).Sublist
      (results.map fun result => result.1.segment.toText) := by
  -- Each result either adds the name of its slot or adds nothing.
  induction results with
  | nil => exact List.Sublist.refl _
  | cons result rest ih =>
    rw [checkedMembers_cons, List.map_cons]
    split
    · exact ih.cons_cons _
    · exact ih.cons _

/-- A checked member comes from a slot that held something before or has something to hold now. -/
theorem mem_checkedMembers {results : List (Slot × Value)} {name : String} {value : Value} :
    (name, value) ∈ Schema.checkedMembers results ↔
      ∃ slot, (slot, value) ∈ results ∧ slot.segment.toText = name ∧
        (slot.present = true ∨ value.isUndefined = false) := by
  -- A result is left out if nothing was there before and nothing defined is there now.
  simp only [Schema.checkedMembers, List.mem_filterMap]
  constructor
  · intro found
    obtain ⟨⟨slot, kept⟩, among, made⟩ := found
    split at made <;> simp at made
    rename_i held
    obtain ⟨rfl, rfl⟩ := made
    exact ⟨slot, among, rfl, by simpa using held⟩
  · intro kept
    obtain ⟨slot, among, rfl, held⟩ := kept
    exact ⟨(slot, value), among, by rcases held with present | defined <;> simp [*]⟩

namespace Schema

/-- The value that is checked under a declared name. -/
def candidate (defaults : Option Defaults) (members : Members Value) (name : String) : Value :=
  fieldValue (members.get? name) defaults name (.object members)

/-- A name that may be absent is skipped if it is, unless a default stands in for it. -/
def Skips (mode : ShapeMode) (defaults : Option Defaults) (members : Members Value)
    (name : String) : Prop :=
  mode = .sparse ∧ name ∉ members.names ∧ (candidate defaults members name).isUndefined = true

/-- The slot of a declared name. -/
theorem fieldSlot_eq (defaults : Option Defaults) (members : Members Value) (name : String)
    (schema : Schema) :
    fieldSlot defaults members (.object members) (name, schema) =
      ⟨.key name, some schema, candidate defaults members name, (members.get? name).isSome⟩ :=
  rfl

/-- Without a default, the value under a name is what is held there. -/
theorem candidate_none (members : Members Value) (name : String) :
    candidate none members name = (members.get? name).getD .undefined := by
  -- Held or not, nothing stands in for the value.
  unfold candidate fieldValue
  cases members.get? name <;> rfl

section Slots

variable {mode : ShapeMode} {defaults : Option Defaults} {fields : Members Schema}
  {members : Members Value} {slot : Slot}

/-- The slots of the members stand at their names, declared or not. -/
theorem mem_memberSlots (declaredOnce : fields.names.Nodup) (distinct : members.names.Nodup) :
    slot ∈ members.map (memberSlot defaults fields (.object members)) ↔
      (∃ name value, (name, value) ∈ members ∧ name ∉ fields.names ∧
        slot = ⟨.key name, none, value, true⟩) ∨
      ∃ name schema, (name, schema) ∈ fields ∧ name ∈ members.names ∧
        slot = fieldSlot defaults members (.object members) (name, schema) := by
  -- With distinct names, the member read under a name is the one that stands there.
  have declaredSlot : ∀ {name value schema}, (name, value) ∈ members →
      fields.get? name = some schema →
      memberSlot defaults fields (.object members) (name, value) =
        fieldSlot defaults members (.object members) (name, schema) := by
    intro name value schema held declared
    simp [memberSlot, fieldSlot, declared, Members.get?_of_mem distinct held]
  have undeclaredSlot : ∀ {name value}, fields.get? name = none →
      memberSlot defaults fields (.object members) (name, value) =
        ⟨.key name, none, value, true⟩ := by
    intro name value undeclared
    simp [memberSlot, undeclared]
  simp only [List.mem_map, Prod.exists]
  constructor
  · intro among
    obtain ⟨name, value, held, rfl⟩ := among
    -- The member is under an undeclared name or under a declared one.
    cases declared : fields.get? name with
    | none =>
      have absent := (Members.get?_eq_none_iff fields name).1 declared
      exact .inl ⟨name, value, held, absent, undeclaredSlot declared⟩
    | some schema =>
      exact .inr ⟨name, schema, Members.mem_of_get? declared, Members.mem_names held,
        declaredSlot held declared⟩
  · intro among
    rcases among with ⟨name, value, held, undeclared, rfl⟩ | ⟨name, schema, declared, present, rfl⟩
    · exact ⟨name, value, held, undeclaredSlot (Members.get?_of_not_mem undeclared)⟩
    · obtain ⟨value, held⟩ := Members.exists_of_mem_names present
      exact ⟨name, value, held, declaredSlot held (Members.get?_of_mem declaredOnce declared)⟩

/-- The slots of the absent names stand at the declared names that the object lacks. -/
theorem mem_absentSlots :
    slot ∈ (fields.filter fun field => !Members.contains members field.1).map
        (fieldSlot defaults members (.object members)) ↔
      ∃ name schema, (name, schema) ∈ fields ∧ name ∉ members.names ∧
        slot = fieldSlot defaults members (.object members) (name, schema) := by
  -- The filter asks whether the name is held, which is membership among the names.
  simp only [List.mem_map, List.mem_filter, Prod.exists, ← Members.contains_iff]
  constructor
  · intro among
    obtain ⟨name, schema, ⟨declared, absent⟩, rfl⟩ := among
    exact ⟨name, schema, declared, by simpa using absent, rfl⟩
  · intro among
    obtain ⟨name, schema, declared, absent, rfl⟩ := among
    exact ⟨name, schema, ⟨declared, by simpa using absent⟩, rfl⟩

/-- The slots of a shape stand at undeclared names, where those are refused, and at all declared names
that are not skipped. -/
theorem mem_shapeSlots (declaredOnce : fields.names.Nodup) (distinct : members.names.Nodup) :
    slot ∈ shapeSlots mode defaults fields members ↔
      (∃ name value, (name, value) ∈ members ∧ name ∉ fields.names ∧ mode ≠ .extensible ∧
        slot = ⟨.key name, none, value, true⟩) ∨
      ∃ name schema, (name, schema) ∈ fields ∧ ¬ Skips mode defaults members name ∧
        slot = fieldSlot defaults members (.object members) (name, schema) := by
  cases mode with
  | extensible =>
    -- All declared names have slots, and no others.
    simp only [shapeSlots, List.mem_map, Prod.exists]
    constructor
    · intro among
      obtain ⟨name, schema, declared, same⟩ := among
      exact .inr ⟨name, schema, declared, by simp [Skips], same.symm⟩
    · intro among
      rcases among with ⟨_, _, _, _, strict, _⟩ | ⟨name, schema, declared, _, same⟩
      · exact absurd rfl strict
      · exact ⟨name, schema, declared, same.symm⟩
  | exact =>
    simp only [shapeSlots, List.mem_append, mem_memberSlots declaredOnce distinct, mem_absentSlots,
      or_assoc]
    refine or_congr (by simp) ?_
    -- A declared name has its slot among those of the members or among those that follow.
    constructor
    · intro among
      rcases among with ⟨name, schema, declared, _, same⟩ | ⟨name, schema, declared, _, same⟩
      all_goals exact ⟨name, schema, declared, by simp [Skips], same⟩
    · intro among
      obtain ⟨name, schema, declared, _, same⟩ := among
      by_cases present : name ∈ members.names
      · exact .inl ⟨name, schema, declared, present, same⟩
      · exact .inr ⟨name, schema, declared, present, same⟩
  | sparse =>
    simp only [shapeSlots, List.mem_append, List.mem_filter, mem_memberSlots declaredOnce distinct,
      mem_absentSlots, or_assoc]
    refine or_congr (by simp) ?_
    constructor
    · intro among
      rcases among with
        ⟨name, schema, declared, present, same⟩ | ⟨⟨name, schema, declared, _, rfl⟩, defined⟩
      · exact ⟨name, schema, declared, fun skips => skips.2.1 present, same⟩
      · -- An absent name has kept its slot, so its default is defined.
        refine ⟨name, schema, declared, fun skips => ?_, rfl⟩
        simp [fieldSlot_eq, skips.2.2] at defined
    · intro among
      obtain ⟨name, schema, declared, examined, rfl⟩ := among
      by_cases present : name ∈ members.names
      · exact .inl ⟨name, schema, declared, present, rfl⟩
      · -- An absent name that is not skipped has a default that is defined.
        refine .inr ⟨⟨name, schema, declared, present, rfl⟩, ?_⟩
        have defined : (candidate defaults members name).isUndefined ≠ true :=
          fun undefined => examined ⟨rfl, present, undefined⟩
        simpa [fieldSlot_eq] using defined

/-- In the strict modes the slots of the members come first and those of absent names follow. -/
theorem shapeSlots_strict (defaults : Option Defaults) (fields : Members Schema)
    (members : Members Value) (strict : mode ≠ .extensible) :
    ∃ absent, shapeSlots mode defaults fields members =
        members.map (memberSlot defaults fields (.object members)) ++ absent ∧
      absent.Sublist ((fields.filter fun field => !Members.contains members field.1).map
        (fieldSlot defaults members (.object members))) := by
  -- A partial shape leaves out some of the absent names that an exact one goes through.
  cases mode with
  | exact => exact ⟨_, rfl, List.Sublist.refl _⟩
  | sparse => exact ⟨_, rfl, List.filter_sublist⟩
  | extensible => exact absurd rfl strict

/-- The slots of members stand behind the steps to their names in order. -/
theorem segments_memberSlots :
    (members.map (memberSlot defaults fields (.object members))).map Slot.segment =
      members.names.map Segment.key := by
  -- Declared or not, a member gives its name to its slot.
  rw [Members.names_eq_map, List.map_map, List.map_map]
  refine List.map_congr_left fun member _ => ?_
  simp only [Function.comp_apply, memberSlot]
  split <;> rfl

/-- The slots of declared names stand behind the steps to those names in order. -/
theorem segments_fieldSlots (defaults : Option Defaults) (fields : Members Schema)
    (members : Members Value) :
    (fields.map (fieldSlot defaults members (.object members))).map Slot.segment =
      fields.names.map Segment.key := by
  -- A slot of a field stands at its name.
  rw [Members.names_eq_map, List.map_map, List.map_map]
  rfl

/-- Slots behind the steps to names stand at those names. -/
theorem texts_of_segments {slots : List Slot} {names : List String}
    (segments : slots.map Slot.segment = names.map Segment.key) :
    slots.map (·.segment.toText) = names := by
  -- The step to a name reads as the name.
  have texts := congrArg (List.map Segment.toText) segments
  rw [List.map_map, List.map_map] at texts
  exact texts.trans (List.map_id names)

/-- The slots of members stand at their names in order. -/
theorem texts_memberSlots :
    (members.map (memberSlot defaults fields (.object members))).map (·.segment.toText) =
      members.names :=
  texts_of_segments segments_memberSlots

/-- The slots of declared names stand at those names in order. -/
theorem texts_fieldSlots (defaults : Option Defaults) (fields : Members Schema)
    (members : Members Value) :
    (fields.map (fieldSlot defaults members (.object members))).map (·.segment.toText) =
      fields.names :=
  texts_of_segments (segments_fieldSlots defaults fields members)

/-- No two slots of a shape stand at one name. -/
theorem nodup_texts_shapeSlots (mode : ShapeMode) (defaults : Option Defaults)
    (declaredOnce : fields.names.Nodup) (distinct : members.names.Nodup) :
    ((shapeSlots mode defaults fields members).map (·.segment.toText)).Nodup := by
  by_cases strict : mode = .extensible
  · -- Only declared names have slots.
    subst strict
    exact (texts_fieldSlots defaults fields members).symm ▸ declaredOnce
  · obtain ⟨absent, slots, among⟩ := shapeSlots_strict defaults fields members strict
    have absentTexts := among.map (·.segment.toText)
    rw [texts_fieldSlots defaults _ members] at absentTexts
    rw [slots, List.map_append, texts_memberSlots]
    refine List.nodup_append.2 ⟨distinct, absentTexts.nodup ?_, ?_⟩
    · -- Those that follow are some of the declared names, which are distinct.
      rw [Members.names_eq_map] at declaredOnce ⊢
      exact (List.filter_sublist.map _).nodup declaredOnce
    · -- The names that follow are ones that the object lacks.
      intro name held other follows same
      subst same
      obtain ⟨schema, lacking⟩ := Members.exists_of_mem_names (absentTexts.subset follows)
      have lacks := (List.mem_filter.1 lacking).2
      rw [(Members.contains_iff members name).2 held] at lacks
      exact Bool.false_ne_true lacks

/-- No two slots of a shape stand behind one step. -/
theorem nodup_segments_shapeSlots (mode : ShapeMode) (defaults : Option Defaults)
    (declaredOnce : fields.names.Nodup) (distinct : members.names.Nodup) :
    ((shapeSlots mode defaults fields members).map Slot.segment).Nodup := by
  -- Steps with different texts are different.
  have texts := nodup_texts_shapeSlots mode defaults declaredOnce distinct
  rw [← Function.comp_def Segment.toText Slot.segment, ← List.map_map] at texts
  exact List.Pairwise.of_map Segment.toText
    (fun _ _ differs same => differs (congrArg Segment.toText same)) texts

end Slots

/-- Slots that all held something before turn into members under all of their names. -/
theorem names_checkedMembers_of_present {results : List (Slot × Value)}
    (present : ∀ result ∈ results, result.1.present = true) :
    Members.names (checkedMembers results) = results.map fun result => result.1.segment.toText := by
  -- Nothing is left out where something was present.
  induction results with
  | nil => rfl
  | cons result rest ih =>
    have tail := ih fun other among => present other (by simp [among])
    rw [checkedMembers_cons, present result (by simp)]
    simp [Members.names, tail]

section Accepted

variable {check : Checker} {mode : ShapeMode} {defaults : Option Defaults}
  {fields : Members Schema} {members : Members Value} {results : List (Slot × Value)}

/-- Results of slots stand beside the slots that they belong to. -/
abbrev Visited (check : Checker) (container : Value) : List Slot → List (Slot × Value) → Prop :=
  List.Forall₂ fun slot result => result.1 = slot ∧ slot.Accepts check container result.2

/-- Results stand at the places of their slots. -/
theorem Visited.texts {container : Value} {slots : List Slot}
    (visited : Visited check container slots results) :
    (results.map fun result => result.1.segment.toText) = slots.map (·.segment.toText) := by
  -- The visit goes through the slots one by one.
  induction visited with
  | nil => rfl
  | cons head _ ih => simp [head.1, ih]

/-- The checked members of a strict shape are those that were there, followed by declared ones. -/
theorem Visited.names_strict (strict : mode ≠ .extensible)
    (visited : Visited check (.object members) (shapeSlots mode defaults fields members) results) :
    ∃ added, Members.names (checkedMembers results) = members.names ++ added ∧
      added.Sublist (Members.names (fields.filter fun field => !members.contains field.1)) := by
  obtain ⟨absent, slots, among⟩ := shapeSlots_strict defaults fields members strict
  rw [slots] at visited
  -- The results divide like the slots: those of the members, and those of absent names.
  obtain ⟨held, others, rfl, front, back⟩ := exists_append_of_forall₂ visited
  -- The slots of members were present, so none of their names is left out.
  have present : ∀ result ∈ held, result.1.present = true := by
    intro result found
    obtain ⟨slot, isSlot, rfl, _⟩ := exists_related front.flip result found
    obtain ⟨member, _, same⟩ := List.mem_map.1 isSlot
    rw [← same, memberSlot]
    split <;> rfl
  refine ⟨Members.names (checkedMembers others), ?_, ?_⟩
  · -- The names of the members come first.
    have parts : checkedMembers (held ++ others) = checkedMembers held ++ checkedMembers others :=
      List.filterMap_append
    rw [parts, Members.names_append, names_checkedMembers_of_present present, Visited.texts front,
      texts_memberSlots]
  · -- The names that follow are those of slots of absent names.
    refine (names_checkedMembers_sublist others).trans ?_
    rw [Visited.texts back, ← texts_fieldSlots defaults _ members]
    exact among.map _

/-- A visited slot has its result, and a result has its slot. -/
theorem Visited.exists_result {container : Value} {slots : List Slot}
    (visited : Visited check container slots results) {slot : Slot} (among : slot ∈ slots) :
    ∃ value, (slot, value) ∈ results ∧ slot.Accepts check container value := by
  -- Results and slots are related place by place.
  obtain ⟨⟨_, value⟩, found, rfl, accepts⟩ := exists_related visited slot among
  exact ⟨value, found, accepts⟩

/-- A result belongs to a slot that accepts it. -/
theorem Visited.accepts {container : Value} {slots : List Slot}
    (visited : Visited check container slots results) {slot : Slot} {value : Value}
    (found : (slot, value) ∈ results) : slot ∈ slots ∧ slot.Accepts check container value := by
  -- Results and slots are related place by place.
  obtain ⟨origin, among, rfl, accepts⟩ := exists_related visited.flip _ found
  exact ⟨among, accepts⟩

/-- Checked members have distinct names. -/
theorem Visited.nodup (declaredOnce : fields.names.Nodup) (distinct : members.names.Nodup)
    (visited : Visited check (.object members) (shapeSlots mode defaults fields members) results) :
    (Members.names (checkedMembers results)).Nodup := by
  -- Each of them has the name of a slot of its own.
  refine (names_checkedMembers_sublist results).nodup ?_
  rw [visited.texts]
  exact nodup_texts_shapeSlots mode defaults declaredOnce distinct

/-- What a shape makes of an object that it accepts. -/
structure ShapeAccepts (check : Checker) (mode : ShapeMode) (defaults : Option Defaults)
    (fields : Members Schema) (members accepted : Members Value) : Prop where
  /-- Only a shape that leaves names free accepts undeclared ones. -/
  known : mode ≠ .extensible → ∀ name ∈ members.names, name ∈ fields.names
  /-- The names that were there come first, and declared ones may follow. -/
  names : ∃ added, accepted.names = members.names ++ added ∧ added.Sublist fields.names
  /-- No name is there twice. -/
  distinct : accepted.names.Nodup
  /-- An undeclared name keeps what it holds. -/
  undeclared : ∀ name, name ∉ fields.names → accepted.get? name = members.get? name
  /-- A skipped name stays absent. -/
  skipped : ∀ name, Skips mode defaults members name → accepted.get? name = none
  /-- Any other declared name holds what its schema makes of it, unless it stays undefined. -/
  examined : ∀ name schema, (name, schema) ∈ fields → ¬ Skips mode defaults members name →
    ∃ value, check schema (candidate defaults members name) (some (.object members)) =
        .ok (.ok value) ∧
      accepted.get? name =
        if members.contains name || !value.isUndefined then some value else none

/-- If nothing stands under a name that was absent, the names are those that were there. -/
theorem ShapeAccepts.names_eq {accepted : Members Value}
    (accepts : ShapeAccepts check mode defaults fields members accepted)
    (absent : ∀ name, name ∉ members.names → accepted.get? name = none) :
    accepted.names = members.names := by
  obtain ⟨added, names, _⟩ := accepts.names
  have distinct := accepts.distinct
  rw [names] at distinct
  -- A name that follows those that were there would have to hold something.
  have nothingAdded : added = [] := by
    refine List.eq_nil_iff_forall_not_mem.2 fun name follows => ?_
    have lacking : name ∉ members.names := fun held =>
      (List.nodup_append.1 distinct).2.2 name held name follows rfl
    have unheld := absent name lacking
    rw [Members.get?_eq_none_iff, names] at unheld
    exact unheld (List.mem_append_right _ follows)
  rw [names, nothingAdded, List.append_nil]

/-- A checked member has a declared name that is examined, and is there to be kept. -/
theorem Visited.exists_field (declaredOnce : fields.names.Nodup) (distinct : members.names.Nodup)
    (visited : Visited check (.object members) (shapeSlots mode defaults fields members) results)
    {name : String} {value : Value} (found : (name, value) ∈ checkedMembers results) :
    ∃ schema, (name, schema) ∈ fields ∧ ¬ Skips mode defaults members name ∧
      check schema (candidate defaults members name) (some (.object members)) =
        .ok (.ok value) ∧ (members.contains name || !value.isUndefined) = true := by
  obtain ⟨slot, result, rfl, kept⟩ := mem_checkedMembers.1 found
  obtain ⟨among, schema, declared, checked⟩ := visited.accepts result
  -- The slot has a schema, so it is one of a declared name.
  rcases (mem_shapeSlots declaredOnce distinct).1 among with
    ⟨_, _, _, _, _, rfl⟩ | ⟨name, _, field, examined, rfl⟩
  · cases declared
  · cases declared
    refine ⟨_, field, examined, checked, ?_⟩
    simpa [fieldSlot_eq, Members.contains, Segment.toText] using kept

/-- A visit that no slot refuses has met no undeclared name unless those are free. -/
theorem Visited.known (declaredOnce : fields.names.Nodup) (distinct : members.names.Nodup)
    (visited : Visited check (.object members) (shapeSlots mode defaults fields members) results)
    (strict : mode ≠ .extensible) : ∀ name ∈ members.names, name ∈ fields.names := by
  intro name held
  -- An undeclared name would have a slot that accepts nothing.
  by_contra undeclared
  obtain ⟨value, held⟩ := Members.exists_of_mem_names held
  have among : (⟨.key name, none, value, true⟩ : Slot) ∈ shapeSlots mode defaults fields members :=
    (mem_shapeSlots declaredOnce distinct).2 (.inl ⟨name, value, held, undeclared, strict, rfl⟩)
  obtain ⟨_, _, _, declared, _⟩ := visited.exists_result among
  cases declared

/-- The members that a shape's results make up. -/
def assembled (mode : ShapeMode) (members : Members Value) (results : List (Slot × Value)) :
    Members Value :=
  Members.insertAll (if mode = .extensible then members else []) (checkedMembers results)

/-- The names that were there come first in what the results make up, and declared ones may follow. -/
theorem Visited.names_assembled (declaredOnce : fields.names.Nodup)
    (distinct : members.names.Nodup)
    (visited : Visited check (.object members) (shapeSlots mode defaults fields members) results) :
    ∃ added, (assembled mode members results).names = members.names ++ added ∧
      added.Sublist fields.names := by
  rw [assembled, Members.names_insertAll (visited.nodup declaredOnce distinct)]
  by_cases strict : mode = .extensible
  · -- The results go into the members that are there, and only new names are added.
    subst strict
    refine ⟨_, by rw [if_pos rfl], List.filter_sublist.trans ?_⟩
    refine (names_checkedMembers_sublist results).trans ?_
    rw [visited.texts]
    exact (texts_fieldSlots defaults fields members).symm ▸ List.Sublist.refl _
  · -- The results go into nothing, so their names are all there is.
    obtain ⟨added, names, declared⟩ := visited.names_strict strict
    refine ⟨added, ?_, declared.trans ?_⟩
    · simp [strict, names, Members.names, Members.contains, Members.get?]
    · rw [Members.names_eq_map, Members.names_eq_map]
      exact List.filter_sublist.map _

/-- What was checked under a name is what the results make up reads as. -/
theorem Visited.get?_checked (declaredOnce : fields.names.Nodup) (distinct : members.names.Nodup)
    (visited : Visited check (.object members) (shapeSlots mode defaults fields members) results)
    {name : String} {value : Value} (found : (name, value) ∈ checkedMembers results) :
    (assembled mode members results).get? name = some value := by
  -- What has been checked is put over what there was.
  have once := visited.nodup declaredOnce distinct
  rw [assembled, Members.get?_insertAll once, Members.get?_of_mem once found, Option.some_or]

/-- Where nothing was checked, only a shape that leaves names free keeps what was there. -/
theorem Visited.get?_unchecked (declaredOnce : fields.names.Nodup) (distinct : members.names.Nodup)
    (visited : Visited check (.object members) (shapeSlots mode defaults fields members) results)
    {name : String} (unchecked : ∀ value, (name, value) ∉ checkedMembers results) :
    (assembled mode members results).get? name =
      if mode = .extensible then members.get? name else none := by
  -- A name without a result is not put over anything.
  have absent : name ∉ Members.names (checkedMembers results) := by
    intro checked
    obtain ⟨value, found⟩ := Members.exists_of_mem_names checked
    exact unchecked value found
  rw [assembled, Members.get?_insertAll (visited.nodup declaredOnce distinct),
    Members.get?_of_not_mem absent, Option.none_or]
  split <;> rfl

/-- The results of a shape's slots make up what the shape accepts. -/
theorem Visited.shapeAccepts (declaredOnce : fields.names.Nodup) (distinct : members.names.Nodup)
    (visited : Visited check (.object members) (shapeSlots mode defaults fields members) results) :
    ShapeAccepts check mode defaults fields members (assembled mode members results) where
  known := visited.known declaredOnce distinct
  names := visited.names_assembled declaredOnce distinct
  -- What has been checked is put into distinct names, or into nothing.
  distinct := by
    refine Members.nodup_insertAll _ ?_
    split
    · exact distinct
    · exact List.nodup_nil
  undeclared := by
    intro name undeclared
    rw [visited.get?_unchecked declaredOnce distinct fun value found => ?_]
    · split
      · rfl
      · -- Where names are not free, an undeclared one cannot have been there.
        rename_i strict
        have absent : name ∉ members.names := fun held =>
          undeclared (visited.known declaredOnce distinct strict name held)
        rw [Members.get?_of_not_mem absent]
    · obtain ⟨schema, declared, _⟩ := visited.exists_field declaredOnce distinct found
      exact undeclared (Members.mem_names declared)
  -- A name that is skipped has no slot, so nothing has been checked under it.
  skipped := by
    intro name skips
    rw [visited.get?_unchecked declaredOnce distinct fun value found => ?_]
    · rw [skips.1]
      rfl
    · obtain ⟨_, _, examined, _⟩ := visited.exists_field declaredOnce distinct found
      exact examined skips
  -- A name that is examined has a slot with a result.
  examined := by
    intro name schema declared examined
    have among := (mem_shapeSlots declaredOnce distinct).2
      (.inr ⟨name, schema, declared, examined, rfl⟩)
    obtain ⟨value, result, _, same, checked⟩ := visited.exists_result among
    cases same
    refine ⟨value, checked, ?_⟩
    -- The value is kept if something was there before or is there now.
    by_cases kept : (members.contains name || !value.isUndefined) = true
    · rw [if_pos kept]
      refine visited.get?_checked declaredOnce distinct (mem_checkedMembers.2 ⟨_, result, rfl, ?_⟩)
      simpa [fieldSlot_eq, Members.contains] using kept
    · rw [if_neg kept, visited.get?_unchecked declaredOnce distinct fun other found => ?_]
      · have absent : members.get? name = none := by
          simp only [Members.contains, Bool.or_eq_true, not_or, Bool.not_eq_true] at kept
          simpa using kept.1
        split
        · exact absent
        · rfl
      · -- A second value would come from the same check, so it would not be kept either.
        obtain ⟨_, declared', _, checked', kept'⟩ :=
          visited.exists_field declaredOnce distinct found
        have same := Members.get?_of_mem declaredOnce declared
        rw [Members.get?_of_mem declaredOnce declared'] at same
        cases same
        have sameValue := checked'.symm.trans checked
        cases sameValue
        exact kept kept'

/-- An object is accepted when all slots of its shape are, and then it is what their results make
up. -/
theorem checkShape_eq_ok_iff {value : Value} :
    checkShape check mode defaults fields members = .ok (.ok value) ↔
      ∃ results,
        Visited check (.object members) (shapeSlots mode defaults fields members) results ∧
          value = .object (assembled mode members results) := by
  -- Once the slots have been visited, nothing can fail any more.
  simp only [checkShape, bind_eq_ok_iff]
  constructor
  · intro checked
    obtain ⟨outcome, visited, returned⟩ := checked
    cases outcome with
    | error error => simp [Pure.pure, Except.pure] at returned
    | ok results =>
      simp only [Pure.pure, Except.pure, Except.ok.injEq] at returned
      exact ⟨results, visitAll_eq_ok_iff.1 visited, returned.symm⟩
  · intro accepted
    obtain ⟨results, visited, rfl⟩ := accepted
    exact ⟨.ok results, visitAll_eq_ok_iff.2 visited, rfl⟩

/-- An accepted object is one that its shape has made of the members. -/
theorem checkShape_eq_ok (declaredOnce : fields.names.Nodup) (distinct : members.names.Nodup)
    {value : Value} (checked : checkShape check mode defaults fields members = .ok (.ok value)) :
    ∃ accepted, value = .object accepted ∧
      ShapeAccepts check mode defaults fields members accepted := by
  -- The results of the visit say what has become of each name.
  obtain ⟨results, visited, rfl⟩ := checkShape_eq_ok_iff.1 checked
  exact ⟨_, rfl, visited.shapeAccepts declaredOnce distinct⟩

/-- An object is accepted once every slot of its shape accepts. -/
theorem checkShape_of_accepting
    (accepting : ∀ slot ∈ shapeSlots mode defaults fields members,
      ∃ value, slot.Accepts check (.object members) value) :
    ∃ value, checkShape check mode defaults fields members = .ok (.ok value) := by
  -- One accepted value for each slot makes the results of a visit.
  have each : ∀ slot ∈ shapeSlots mode defaults fields members, ∃ result : Slot × Value,
      result.1 = slot ∧ slot.Accepts check (.object members) result.2 := by
    intro slot among
    obtain ⟨value, accepts⟩ := accepting slot among
    exact ⟨(slot, value), rfl, accepts⟩
  obtain ⟨results, visited⟩ := exists_forall₂ each
  exact ⟨_, checkShape_eq_ok_iff.2 ⟨results, visited, rfl⟩⟩

/-- The error of an object is the one of the visit of its slots. -/
theorem visitAll_of_checkShape {error : ValidationError}
    (checked : checkShape check mode defaults fields members = .ok (.error error)) :
    visitAll check (.object members) (shapeSlots mode defaults fields members) =
      .ok (.error error) := by
  unfold checkShape at checked
  simp only [bind_eq_ok_iff] at checked
  obtain ⟨outcome, visited, returned⟩ := checked
  -- The error is handed on as it is.
  cases outcome with
  | ok results => simp [Pure.pure, Except.pure] at returned
  | error found =>
    simp only [Pure.pure, Except.pure, Except.ok.injEq, Except.error.injEq] at returned
    exact returned ▸ visited

/-- Every failure of an object is one of a slot that refuses its value. -/
theorem exists_refusing_name {error : ValidationError}
    (checked : checkShape check mode defaults fields members = .ok (.error error)) :
    ∀ failure ∈ error.failures, ∃ slot ∈ shapeSlots mode defaults fields members, ∃ failures,
      slot.Refuses check (.object members) failures ∧ failure ∈ failures :=
  exists_refusing_slot (visitAll_of_checkShape checked)

end Accepted

end Schema

end Conform
