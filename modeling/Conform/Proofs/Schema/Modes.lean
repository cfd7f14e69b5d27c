import Conform.Proofs.Schema.Coercion
import Conform.Proofs.Schema.Concord
import Conform.Proofs.Schema.Fate
import Conform.Schema.Build

/-! The modes of a shape differ in what they make of undeclared and of absent names, and in nothing
else. -/

namespace Conform.Schema

/-- What an object holds under names that are not declared. -/
def undeclaredMembers (fields : Members Schema) (members : Members Value) : Members Value :=
  members.filter fun member => !Members.contains fields member.1

/-- What an object holds under names that are not declared, each told as a failure. -/
def strangers (fields : Members Schema) (members : Members Value) : List Failure :=
  (undeclaredMembers fields members).map fun member =>
    ⟨.object members, [.key member.1], member.2, none, "undefined"⟩

variable {links : Links} {check : Checker} {mode mode' : ShapeMode} {fields : Members Schema}
  {members : Members Value} {guard : Predicate} {type type' : String}

/-- A shape that is built without a default has the type of its mode and the registered guard. -/
theorem eq_shape_of_built {scope : Scope} {shape : Schema}
    (built : scope.shape mode fields none = .ok shape)
    (registered : scope.registry.get? "object" = some guard) :
    shape = .shape ⟨Scope.shapeType mode fields.names, none⟩ mode guard fields := by
  -- Nothing but the guard is looked up.
  simp only [Scope.shape, Scope.predicate, registered] at built
  exact (Except.ok.inj built).symm

/-- A shape without a default that lets an object in checks its members. -/
theorem validate_bare_shape (depth : Nat) (parent : Option Value)
    (passes : (guard (.object members) none).isPass = true) :
    validate links (depth + 1) (.shape ⟨type, none⟩ mode guard fields) (.object members) parent =
      checkShape (validate links depth) mode none fields members :=
  validate_shape passes rfl

section Accepting

variable {accepted accepted' : Members Value}

/-- Two shapes accept the same of one object if what they accept reads the same under every name. -/
theorem ShapeAccepts.eq_of_get?_eq {check' : Checker} {defaults defaults' : Option Defaults}
    (accepts : ShapeAccepts check mode defaults fields members accepted)
    (accepts' : ShapeAccepts check' mode' defaults' fields members accepted')
    (declaredOnce : fields.names.Nodup)
    (same : ∀ name, accepted.get? name = accepted'.get? name) : accepted = accepted' := by
  obtain ⟨added, names, among⟩ := accepts.names
  obtain ⟨added', names', among'⟩ := accepts'.names
  -- The names of the object come first on both sides, so the names that follow are the same ones.
  have perm : accepted.names.Perm accepted'.names :=
    (List.perm_ext_iff_of_nodup accepts.distinct accepts'.distinct).2 fun name =>
      Members.mem_names_congr (same name)
  rw [names, names', List.perm_append_left_iff] at perm
  -- They follow in the order of their declaration.
  have follow := (declaredOnce.perm_iff_eq_of_sublist among among').1 perm
  refine Members.ext_get? accepts.distinct ?_ fun name _ => same name
  rw [names, names', follow]

/-- Shapes of modes that skip no name make the same of one object. -/
theorem ShapeAccepts.eq_of_dense
    (accepts : ShapeAccepts check mode none fields members accepted)
    (accepts' : ShapeAccepts check mode' none fields members accepted')
    (declaredOnce : fields.names.Nodup) (dense : mode ≠ .sparse) (dense' : mode' ≠ .sparse) :
    accepted = accepted' := by
  refine accepts.eq_of_get?_eq accepts' declaredOnce fun name => ?_
  by_cases declared : name ∈ fields.names
  · -- What its schema makes of a declared name does not depend on the mode.
    obtain ⟨schema, declared⟩ := Members.exists_of_mem_names declared
    obtain ⟨made, checked, read⟩ := accepts.examined name schema declared fun skips => dense skips.1
    obtain ⟨made', checked', read'⟩ :=
      accepts'.examined name schema declared fun skips => dense' skips.1
    rw [checked] at checked'
    cases checked'
    rw [read, read']
  · rw [accepts.undeclared name declared, accepts'.undeclared name declared]

/-- A shape that names are free in stops exactly if the exact one does. -/
theorem exists_outcome_extensible_iff (declaredOnce : fields.names.Nodup)
    (distinct : members.names.Nodup) :
    (∃ outcome, checkShape check .extensible none fields members = .ok outcome) ↔
      ∃ outcome, checkShape check .exact none fields members = .ok outcome := by
  -- Both make the same checks, one for each declared name.
  rw [← Fate.of_ne_stopped_iff, ← Fate.of_ne_stopped_iff, ne_eq, ne_eq,
    Fate.of_checkShape_eq_stopped_iff declaredOnce distinct,
    Fate.of_checkShape_eq_stopped_iff declaredOnce distinct]
  simp [Skips]

/-- An exact shape accepts what one that leaves names free does, unless there are undeclared names. -/
theorem checkShape_exact_eq_ok_iff (declaredOnce : fields.names.Nodup)
    (distinct : members.names.Nodup) {value : Value} :
    checkShape check .exact none fields members = .ok (.ok value) ↔
      checkShape check .extensible none fields members = .ok (.ok value) ∧
        ∀ name ∈ members.names, name ∈ fields.names := by
  -- They examine the same names, so both accept something or neither does, strangers apart.
  have together : (∃ value, checkShape check .exact none fields members = .ok (.ok value)) ↔
      (∃ value, checkShape check .extensible none fields members = .ok (.ok value)) ∧
        ∀ name ∈ members.names, name ∈ fields.names := by
    rw [← Fate.of_eq_accepted_iff, ← Fate.of_eq_accepted_iff,
      Fate.of_checkShape_eq_accepted_iff declaredOnce distinct,
      Fate.of_checkShape_eq_accepted_iff declaredOnce distinct]
    simp [Skips, and_comm]
  -- Both put the names in the order of the object and of the declaration.
  have same : ∀ {value value'}, checkShape check .exact none fields members = .ok (.ok value) →
      checkShape check .extensible none fields members = .ok (.ok value') → value = value' := by
    intro value value' checked checked'
    obtain ⟨accepted, rfl, accepts⟩ := checkShape_eq_ok declaredOnce distinct checked
    obtain ⟨accepted', rfl, accepts'⟩ := checkShape_eq_ok declaredOnce distinct checked'
    rw [accepts.eq_of_dense accepts' declaredOnce (by simp) (by simp)]
  constructor
  · intro checked
    obtain ⟨⟨value', checked'⟩, known⟩ := together.1 ⟨value, checked⟩
    obtain rfl := same checked checked'
    exact ⟨checked', known⟩
  · intro both
    obtain ⟨checked', known⟩ := both
    obtain ⟨value', checked⟩ := together.2 ⟨⟨value, checked'⟩, known⟩
    obtain rfl := same checked checked'
    exact checked

end Accepting

section Refusing

/-- The names of an object that are not declared. -/
theorem mem_names_undeclared {name : String} :
    name ∈ (undeclaredMembers fields members).names ↔
      name ∈ members.names ∧ name ∉ fields.names := by
  -- A name is kept unless a field is declared under it.
  rw [undeclaredMembers, Members.names_filter fun name => !Members.contains fields name,
    List.mem_filter, Bool.not_eq_true', Bool.eq_false_iff, ne_eq, Members.contains_iff]

/-- An exact shape looks at what one that leaves names free does, and at undeclared names besides. -/
theorem perm_steps_exact (label label' : Label) (guard : Predicate)
    (declaredOnce : fields.names.Nodup) (distinct : members.names.Nodup) :
    (steps (.shape label .exact guard fields) (.object members)).Perm
      (steps (.shape label' .extensible guard fields) (.object members) ++
        (undeclaredMembers fields members).names.map .key) := by
  refine (List.perm_ext_iff_of_nodup (nodup_steps_shape label guard declaredOnce distinct) ?_).2
    fun step => ?_
  · -- What is declared is not undeclared.
    refine List.nodup_append.2 ⟨nodup_steps_shape label' guard declaredOnce distinct, ?_, ?_⟩
    · rw [undeclaredMembers, Members.names_filter fun name => !Members.contains fields name]
      exact List.pairwise_map.2
        ((distinct.filter _).imp fun differs same => differs (Segment.key.inj same))
    · intro step among other others same
      subst same
      obtain ⟨name, rfl, known⟩ := (mem_steps_shape label' guard declaredOnce distinct).1 among
      obtain ⟨_, undeclared, same⟩ := List.mem_map.1 others
      cases same
      rcases known with ⟨_, _, strict⟩ | ⟨declared, _⟩
      · exact strict rfl
      · exact (mem_names_undeclared.1 undeclared).2 declared
  · rw [List.mem_append, List.mem_map, mem_steps_shape label guard declaredOnce distinct,
      mem_steps_shape label' guard declaredOnce distinct]
    simp only [mem_names_undeclared]
    -- Neither of the two skips a name, so what is declared is looked at by both.
    constructor
    · intro place
      obtain ⟨name, rfl, ⟨held, undeclared, _⟩ | ⟨declared, _⟩⟩ := place
      · exact .inr ⟨name, ⟨held, undeclared⟩, rfl⟩
      · exact .inl ⟨name, rfl, .inr ⟨declared, fun skips => by cases skips.1⟩⟩
    · intro place
      rcases place with ⟨name, rfl, ⟨_, _, strict⟩ | ⟨declared, _⟩⟩ | ⟨name, ⟨held, undeclared⟩, rfl⟩
      · exact absurd rfl strict
      · exact ⟨name, rfl, .inr ⟨declared, fun skips => by cases skips.1⟩⟩
      · exact ⟨name, rfl, .inl ⟨held, undeclared, by simp⟩⟩

/-- At undeclared names an exact shape reports the strangers. -/
theorem mapM_report_strangers (label : Label) (guard : Predicate) (distinct : members.names.Nodup)
    {lists : List (List Failure)}
    (ran : ((undeclaredMembers fields members).names.map Segment.key).mapM
      (report check (.shape label mode guard fields) (.object members)) = .ok lists) :
    lists.flatten = strangers fields members := by
  have each : ((undeclaredMembers fields members).names.map Segment.key).mapM
      (report check (.shape label mode guard fields) (.object members)) =
        .ok ((strangers fields members).map fun failure => [failure]) := by
    rw [mapM_eq_ok_iff, strangers, Members.names_eq_map, List.map_map, List.map_map,
      List.forall₂_map_left_iff, List.forall₂_map_right_iff, List.forall₂_same]
    intro member among
    obtain ⟨held, undeclared⟩ := List.mem_filter.1 among
    have absent : Members.get? fields member.1 = none := by
      simpa [Members.contains] using undeclared
    -- Nothing is declared there, and what is found is what the object holds.
    simp [report, asked, absent, Members.get?_of_mem distinct held]
  rw [each] at ran
  rw [← Except.ok.inj ran, ← List.flatMap_def, List.flatMap_singleton']

/-- An exact shape fails with the failures of one that leaves names free, and with the strangers. -/
theorem perm_failures_exact (declaredOnce : fields.names.Nodup) (distinct : members.names.Nodup)
    {error : ValidationError}
    (refused : checkShape check .exact none fields members = .ok (.error error)) :
    ∃ outcome, checkShape check .extensible none fields members = .ok outcome ∧
      error.failures.Perm (toldFailures outcome ++ strangers fields members) := by
  -- What is reported at a place depends neither on the mode nor on the type.
  let label : Label := ⟨"", none⟩
  let guard : Predicate := fun _ _ => .pass
  have collects : Collects (checkShape check .exact label.defaults fields members) _ :=
    collects_checkShape guard declaredOnce distinct
  have collects' : Collects (checkShape check .extensible label.defaults fields members) _ :=
    collects_checkShape guard declaredOnce distinct
  -- The reports of the exact shape are moved to where the other one has them, the strangers last.
  obtain ⟨_, lists, ran, all⟩ := (collects.refuses_iff error).1 refused
  obtain ⟨moved, movedRan, reordered⟩ :=
    exists_mapM_of_perm (perm_steps_exact label label guard declaredOnce distinct) ran
  obtain ⟨shared, others, rfl, sharedRan, othersRan⟩ :=
    exists_append_of_forall₂ (mapM_eq_ok_iff.1 movedRan)
  have sameReports : report check (.shape label .exact guard fields) (.object members) =
      report check (.shape label .extensible guard fields) (.object members) := by
    funext step
    cases step <;> rfl
  have told := collects'.failures
  rw [← sameReports, mapM_eq_ok_iff.2 sharedRan] at told
  -- The places that both look at come to an end, so the other shape comes to an outcome.
  cases checked : checkShape check .extensible none fields members with
  | error reason =>
    rw [checked] at told
    cases told
  | ok outcome =>
    rw [checked] at told
    have shown : toldFailures outcome = shared.flatten := Except.ok.inj told
    refine ⟨outcome, rfl, ?_⟩
    rw [all, shown, ← mapM_report_strangers label guard distinct (mapM_eq_ok_iff.2 othersRan),
      ← List.flatten_append]
    exact reordered.flatten

end Refusing

/-- An object that holds all declared names lacks none of them. -/
theorem filter_absent_eq_nil (held : ∀ field ∈ fields, field.1 ∈ members.names) :
    (fields.filter fun field => !Members.contains members field.1) = [] := by
  -- Every field is found among the names.
  refine List.filter_eq_nil_iff.2 fun field among => ?_
  simp [(Members.contains_iff members field.1).2 (held field among)]

/-- A shape whose names may be absent has the places of an exact one that declares only what is
there. -/
theorem shapeSlots_sparse (fields : Members Schema) (members : Members Value) :
    shapeSlots .sparse none fields members =
      shapeSlots .exact none (fields.filter fun field => Members.contains members field.1)
        members := by
  have held : members.map (memberSlot none fields (.object members)) =
      members.map (memberSlot none (fields.filter fun field => Members.contains members field.1)
        (.object members)) := by
    refine List.map_congr_left fun member among => ?_
    -- A name that the object holds reads as it did before others were left out.
    have kept : Members.contains members member.1 = true :=
      (Members.contains_iff members member.1).2 (Members.mem_names among)
    rw [memberSlot, memberSlot, Members.get?_filter kept]
  have skipped : ((fields.filter fun field => !Members.contains members field.1).map
      (fieldSlot none members (.object members))).filter (fun slot => !slot.value.isUndefined) =
        [] := by
    refine List.filter_eq_nil_iff.2 fun slot among => ?_
    obtain ⟨⟨name, schema⟩, lacking, rfl⟩ := List.mem_map.1 among
    have absent : members.get? name = none := by
      simpa [Members.contains] using (List.mem_filter.1 lacking).2
    -- Nothing stands in for what is absent.
    simp [fieldSlot_eq, candidate_none, absent, Value.isUndefined]
  have nothing : (fields.filter fun field => Members.contains members field.1).filter
      (fun field => !Members.contains members field.1) = [] :=
    filter_absent_eq_nil fun field among =>
      (Members.contains_iff members field.1).1 (List.mem_filter.1 among).2
  simp only [shapeSlots, held, skipped, nothing, List.map_nil]

/-- A shape whose names may be absent checks an object as an exact one does that declares only what is
there. -/
theorem checkShape_sparse (check : Checker) (fields : Members Schema) (members : Members Value) :
    checkShape check .sparse none fields members =
      checkShape check .exact none (fields.filter fun field => Members.contains members field.1)
        members := by
  -- Both look at the same slots, and put together what comes of them alike.
  unfold checkShape
  rw [shapeSlots_sparse]
  rfl

/-- The modes of a shape without a default agree about every object that its guard lets in. The exact
shape accepts what the one does that leaves names free, and the same, if there are no undeclared names;
it fails with the failures of that one and with the undeclared names, in some order; and either comes to
an outcome if the other does. The shape whose names may be absent comes to just what the exact one does
that declares only the names that are there. -/
theorem shape_modes_agree {scope : Scope} {exact sparse extensible restricted : Schema}
    (builtExact : scope.shape .exact fields none = .ok exact)
    (builtSparse : scope.shape .sparse fields none = .ok sparse)
    (builtExtensible : scope.shape .extensible fields none = .ok extensible)
    (builtRestricted : scope.shape .exact
      (fields.filter fun field => Members.contains members field.1) none = .ok restricted)
    (registered : scope.registry.get? "object" = some guard)
    (passes : (guard (.object members) none).isPass = true)
    (declaredOnce : fields.names.Nodup) (distinct : members.names.Nodup)
    (links : Links) (depth : Nat) (parent : Option Value) :
    (∀ accepted, validate links depth exact (.object members) parent = .ok (.ok accepted) ↔
      validate links depth extensible (.object members) parent = .ok (.ok accepted) ∧
        ∀ name ∈ members.names, name ∈ fields.names) ∧
    (∀ error, validate links depth exact (.object members) parent = .ok (.error error) →
      ∃ outcome, validate links depth extensible (.object members) parent = .ok outcome ∧
        error.failures.Perm (toldFailures outcome ++ strangers fields members)) ∧
    ((∃ outcome, validate links depth exact (.object members) parent = .ok outcome) ↔
      ∃ outcome, validate links depth extensible (.object members) parent = .ok outcome) ∧
    validate links depth sparse (.object members) parent =
      validate links depth restricted (.object members) parent := by
  obtain rfl := eq_shape_of_built builtExact registered
  obtain rfl := eq_shape_of_built builtSparse registered
  obtain rfl := eq_shape_of_built builtExtensible registered
  obtain rfl := eq_shape_of_built builtRestricted registered
  cases depth with
  | zero => simp [validate]
  | succ depth =>
    -- Each of them comes down to checking the members.
    simp only [validate_bare_shape depth parent passes]
    exact ⟨fun accepted => checkShape_exact_eq_ok_iff declaredOnce distinct,
      fun error => perm_failures_exact declaredOnce distinct,
      (exists_outcome_extensible_iff declaredOnce distinct).symm,
      checkShape_sparse (validate links depth) fields members⟩

/-- A registry of objects. -/
def objects : Registry :=
  Registry.empty.register "object" (Registry.hasTag .object)

/-- What a card in a library declares: a title, a year that is a number, and a shelf that is the hall if
nobody says otherwise. -/
def card : Members Schema :=
  [("title", unjudged), ("year", .scalar ⟨"number", none⟩ (Registry.hasTag .number)),
    ("shelf", .scalar ⟨"string", some (.value (.string "hall"))⟩ (Registry.hasTag .string))]

/-- A card with a stamp that nobody has declared, a year in words and no shelf. -/
def stamped : Members Value :=
  [("stamp", .bool true), ("year", .string "last"), ("title", .string "Ulysses")]

/-- An exact card reports the stamp besides the year, and a partial card just what is there. -/
theorem shape_modes_agree_card : ∃ exact sparse extensible restricted error outcome,
    Scope.shape ⟨objects, []⟩ .exact card none = .ok exact ∧
      Scope.shape ⟨objects, []⟩ .sparse card none = .ok sparse ∧
      Scope.shape ⟨objects, []⟩ .extensible card none = .ok extensible ∧
      Scope.shape ⟨objects, []⟩ .exact [("title", unjudged),
        ("year", .scalar ⟨"number", none⟩ (Registry.hasTag .number))] none = .ok restricted ∧
      validate [] 2 exact (.object stamped) none = .ok (.error error) ∧
      validate [] 2 extensible (.object stamped) none = .ok outcome ∧
      error.failures.Perm (toldFailures outcome ++
        [⟨.object stamped, [.key "stamp"], .bool true, none, "undefined"⟩]) ∧
      validate [] 2 sparse (.object stamped) none =
        validate [] 2 restricted (.object stamped) none := by
  -- The four shapes are built by one scope, and the exact one is run.
  let scope : Scope := ⟨objects, []⟩
  have distinct : stamped.names.Nodup := by simp [stamped, Members.names]
  obtain ⟨_, failures, _, partially⟩ :=
    shape_modes_agree (Eq.refl (scope.shape .exact card none)) rfl rfl rfl rfl rfl
      (by simp [card, Members.names]) distinct [] 2 none
  obtain ⟨outcome, checked, reported⟩ := failures _ rfl
  exact ⟨_, _, _, _, _, outcome, rfl, rfl, rfl, rfl, rfl, checked, reported, partially⟩

end Conform.Schema
