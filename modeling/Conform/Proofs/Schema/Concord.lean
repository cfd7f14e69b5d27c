import Conform.Proofs.Schema.Outputs
import Mathlib.Data.List.Perm.Basic

/-! Two checks of objects concur if they differ in nothing but order: in that of the members that they
put out, or in that of the failures that they find. -/

namespace Conform

/-- What a failure tells, apart from the value that it is told from. -/
def Failure.finding (failure : Failure) : Path × Value × Option String × String :=
  (failure.path, failure.value, failure.reason, failure.expected)

/-- Two checks of objects concur: both accept, and what they put out differs in the order of members
alone; or both refuse, under no type of their own and with the same findings in whatever order; or
neither comes to an end. -/
inductive Concur : Run Outcome → Run Outcome → Prop where
  | accepted {members others : Members Value} (same : members.Perm others) :
      Concur (.ok (.ok (.object members))) (.ok (.ok (.object others)))
  | refused {error error' : ValidationError} (plain : error.override = none)
      (plain' : error'.override = none)
      (same : (error.failures.map Failure.finding).Perm (error'.failures.map Failure.finding)) :
      Concur (.ok (.error error)) (.ok (.error error'))
  | stopped {reason reason' : Stop} : Concur (.error reason) (.error reason')

section Collecting

variable {places places' : List Segment} {report report' : Segment → Run (List Failure)}

/-- A run over a list in another order gives the same results in another order. -/
theorem exists_mapM_of_perm {ε α β : Type} {step : α → Except ε β} {items others : List α}
    {results : List β} (perm : items.Perm others) (ran : items.mapM step = .ok results) :
    ∃ results', others.mapM step = .ok results' ∧ results.Perm results' := by
  -- Each item brings its result along to its new place.
  obtain ⟨moved, each, reordered⟩ := List.perm_comp_forall₂ perm.symm (mapM_eq_ok_iff.1 ran)
  exact ⟨moved, mapM_eq_ok_iff.2 each, reordered.symm⟩

/-- The findings of a run that may stop. -/
def findings (reports : Run (List Failure)) : Run (List (Path × Value × Option String × String)) :=
  reports.map (List.map Failure.finding)

/-- Places in another order report the same findings in another order, if each does by itself. -/
theorem exists_reports_of_perm (perm : places.Perm places')
    (alike : ∀ place ∈ places, findings (report place) = findings (report' place))
    {lists : List (List Failure)} (ran : places.mapM report = .ok lists) :
    ∃ lists', places'.mapM report' = .ok lists' ∧
      (lists.flatten.map Failure.finding).Perm (lists'.flatten.map Failure.finding) := by
  -- The reports of the places are put in the other order along with them.
  obtain ⟨moved, movedRan, reordered⟩ := exists_mapM_of_perm perm ran
  have each := mapM_eq_ok_iff.1 movedRan
  have found : places'.mapM (fun place => findings (report' place)) =
      .ok (moved.map (List.map Failure.finding)) := by
    refine mapM_eq_ok_iff.2 (List.forall₂_map_right_iff.2 ?_)
    refine ((List.forall₂_and_left _ _).2 ⟨fun _ among => among, each⟩).imp ?_
    intro place list both
    obtain ⟨among, reported⟩ := both
    rw [← alike place (perm.mem_iff.2 among), reported]
    rfl
  -- Only what the failures tell is known to be the same, so the reports themselves are others.
  have mapped : (places'.mapM report').map (List.map (List.map Failure.finding)) =
      places'.mapM fun place => findings (report' place) :=
    map_mapM (List.forall₂_same.2 fun _ _ => rfl)
  rw [← mapped] at found
  cases ran' : places'.mapM report' with
  | error reason =>
    rw [ran'] at found
    cases found
  | ok lists' =>
    rw [ran'] at found
    have same : lists'.map (List.map Failure.finding) = moved.map (List.map Failure.finding) :=
      Except.ok.inj found
    refine ⟨lists', rfl, ?_⟩
    rw [List.map_flatten, List.map_flatten, same]
    exact (reordered.map _).flatten

/-- Runs over the same places in different orders concur if each place reports the same findings, and
if what they accept differs in order alone. -/
theorem Collects.concur {run run' : Run Outcome}
    (collects : Collects run (places.mapM report))
    (collects' : Collects run' (places'.mapM report')) (perm : places.Perm places')
    (alike : ∀ place ∈ places, findings (report place) = findings (report' place))
    (accepted : ∀ value value', run = .ok (.ok value) → run' = .ok (.ok value') →
      ∃ members others : Members Value, value = .object members ∧ value' = .object others ∧
        members.Perm others) :
    Concur run run' := by
  have told := collects.failures
  have told' := collects'.failures
  cases ran : places.mapM report with
  | error reason =>
    -- A place that stops does so on the other side as well.
    rw [ran] at told
    cases ran' : places'.mapM report' with
    | ok lists' =>
      have alike' : ∀ place ∈ places', findings (report' place) = findings (report place) :=
        fun place among => (alike place (perm.mem_iff.2 among)).symm
      obtain ⟨lists, ranToo, _⟩ := exists_reports_of_perm perm.symm alike' ran'
      rw [ran] at ranToo
      cases ranToo
    | error reason' =>
      rw [ran'] at told'
      cases run <;> cases told
      cases run' <;> cases told'
      exact .stopped
  | ok lists =>
    -- When no place stops on either side, what has been found decides.
    obtain ⟨lists', ran', same⟩ := exists_reports_of_perm perm alike ran
    rw [ran] at told
    rw [ran'] at told'
    rcases run with reason | error | value
    · cases told
    · rcases run' with reason' | error' | value'
      · cases told'
      · rw [← Except.ok.inj told, ← Except.ok.inj told'] at same
        exact .refused (collects.plain error rfl) (collects'.plain error' rfl) same
      · -- Where something is found on the one side, something is found on the other.
        rw [← Except.ok.inj told, ← Except.ok.inj told'] at same
        simp [toldFailures] at same
    · rcases run' with reason' | error' | value'
      · cases told'
      · rw [← Except.ok.inj told, ← Except.ok.inj told'] at same
        simp [toldFailures] at same
      · obtain ⟨members, others, rfl, rfl, reordered⟩ := accepted value value' rfl rfl
        exact .accepted reordered

end Collecting

namespace Schema

variable {links : Links} {check : Checker} {mode : ShapeMode} {defaults defaults' : Option Defaults}
  {fields : Members Schema} {members members' : Members Value} {name : String}

/-- A shape comes upon the same in two objects, whichever way: the same stands under each declared
name, and a name under which nothing defined stands is held by both or by neither; and the objects hold
the same under every other name. -/
structure SameStanding (defaults defaults' : Option Defaults) (fields : Members Schema)
    (members members' : Members Value) : Prop where
  standing : ∀ name ∈ fields.names, standing defaults members name = standing defaults' members' name
  -- Whether a name is held at all decides whether it is put out and whether it is skipped.
  undefined : ∀ name ∈ fields.names, (Schema.standing defaults members name).isUndefined = true →
    (name ∈ members.names ↔ name ∈ members'.names)
  undeclared : ∀ name, name ∉ fields.names → members.get? name = members'.get? name

/-- The places of a shape are the undeclared names of an object, where those are refused, and the
declared names that are not skipped. -/
theorem mem_steps_shape (label : Label) (guard : Predicate) (declaredOnce : fields.names.Nodup)
    (distinct : members.names.Nodup) {step : Segment} :
    step ∈ steps (.shape label mode guard fields) (.object members) ↔ ∃ name, step = .key name ∧
      (name ∈ members.names ∧ name ∉ fields.names ∧ mode ≠ .extensible ∨
        name ∈ fields.names ∧ ¬ Skips mode label.defaults members name) := by
  -- A slot of either kind is the step to its name.
  rw [← segments_shapeSlots guard, List.mem_map]
  constructor
  · intro place
    obtain ⟨slot, among, rfl⟩ := place
    rcases (mem_shapeSlots declaredOnce distinct).1 among with
      ⟨name, value, held, undeclared, strict, rfl⟩ | ⟨name, schema, declared, examined, rfl⟩
    · exact ⟨name, rfl, .inl ⟨Members.mem_names held, undeclared, strict⟩⟩
    · exact ⟨name, rfl, .inr ⟨Members.mem_names declared, examined⟩⟩
  · intro place
    obtain ⟨name, rfl, ⟨held, undeclared, strict⟩ | ⟨declared, examined⟩⟩ := place
    · obtain ⟨value, held⟩ := Members.exists_of_mem_names held
      exact ⟨_, (mem_shapeSlots declaredOnce distinct).2
        (.inl ⟨name, value, held, undeclared, strict, rfl⟩), rfl⟩
    · obtain ⟨schema, declared⟩ := Members.exists_of_mem_names declared
      exact ⟨_, (mem_shapeSlots declaredOnce distinct).2
        (.inr ⟨name, schema, declared, examined, rfl⟩), rfl⟩

/-- A shape looks at no place twice. -/
theorem nodup_steps_shape (label : Label) (guard : Predicate) (declaredOnce : fields.names.Nodup)
    (distinct : members.names.Nodup) :
    (steps (.shape label mode guard fields) (.object members)).Nodup := by
  -- The steps are those to the slots.
  rw [← segments_shapeSlots guard]
  exact nodup_segments_shapeSlots mode label.defaults declaredOnce distinct

namespace SameStanding

/-- A declared name is skipped on both sides or on neither. -/
theorem skips_iff (same : SameStanding defaults defaults' fields members members')
    (declared : name ∈ fields.names) :
    Skips mode defaults members name ↔ Skips mode defaults' members' name := by
  rw [Skips, Skips, candidate_eq_standing, candidate_eq_standing, ← same.standing name declared]
  -- Where something defined stands, nothing is skipped, and elsewhere both sides hold the same names.
  by_cases undefined : (Schema.standing defaults members name).isUndefined = true
  · rw [same.undefined name declared undefined]
  · simp [undefined]

/-- A shape looks at the same places on both sides, in whatever order. -/
theorem perm_steps (same : SameStanding defaults defaults' fields members members')
    (type : String) (guard : Predicate) (declaredOnce : fields.names.Nodup)
    (distinct : members.names.Nodup) (distinct' : members'.names.Nodup) :
    (steps (.shape ⟨type, defaults⟩ mode guard fields) (.object members)).Perm
      (steps (.shape ⟨type, defaults'⟩ mode guard fields) (.object members')) := by
  refine (List.perm_ext_iff_of_nodup (nodup_steps_shape ⟨type, defaults⟩ guard declaredOnce distinct)
    (nodup_steps_shape ⟨type, defaults'⟩ guard declaredOnce distinct')).2 fun step => ?_
  rw [mem_steps_shape ⟨type, defaults⟩ guard declaredOnce distinct,
    mem_steps_shape ⟨type, defaults'⟩ guard declaredOnce distinct']
  refine exists_congr fun name => and_congr_right fun _ => ?_
  -- A name is declared or not, and in either case the sides agree about it.
  by_cases declared : name ∈ fields.names
  · simp [declared, same.skips_iff declared]
  · simp [declared, Members.mem_names_congr (same.undeclared name declared)]

/-- A shape finds the same at each place on both sides, if its fields do not look at the container. -/
theorem findings_eq (same : SameStanding defaults defaults' fields members members')
    (type : String) (guard : Predicate)
    (blind : ∀ name schema, (name, schema) ∈ fields → ∀ value,
      check schema value (some (.object members)) = check schema value (some (.object members')))
    (name : String) :
    findings
        (report check (.shape ⟨type, defaults⟩ mode guard fields) (.object members) (.key name)) =
      findings
        (report check (.shape ⟨type, defaults'⟩ mode guard fields) (.object members') (.key name)) := by
  simp only [report, asked]
  cases declared : Members.get? fields name with
  | none =>
    -- What is found where nothing is declared is what the objects hold.
    have undeclared := (Members.get?_eq_none_iff fields name).1 declared
    simp [findings, Except.map, Failure.finding, same.undeclared name undeclared]
  | some schema =>
    have among := Members.mem_of_get? declared
    simp only [Option.map_some, firstRefusal, same.standing name (Members.mem_names among),
      blind name schema among]
    -- The check is the same on both sides, and so is what its failures tell.
    rcases check schema (Schema.standing defaults' members' name)
      (some (.object members')) with reason | error | accepted
    · rfl
    · simp [Bind.bind, Except.bind, Pure.pure, Except.pure, findings, Except.map, Failure.finding,
        Function.comp_def]
    · rfl

/-- What a shape accepts on both sides differs in order alone, if its fields do not look at the
container and keep what is defined. -/
theorem perm_accepted (same : SameStanding defaults defaults' fields members members')
    (blind : ∀ name schema, (name, schema) ∈ fields → ∀ value,
      check schema value (some (.object members)) = check schema value (some (.object members')))
    (kept : ∀ schema value parent made, check schema value parent = .ok (.ok made) →
      value.Kept made)
    {results results' : Members Value}
    (accepts : ShapeAccepts check mode defaults fields members results)
    (accepts' : ShapeAccepts check mode defaults' fields members' results') :
    results.Perm results' := by
  refine Members.perm_of_get?_eq accepts.distinct accepts'.distinct fun name => ?_
  by_cases declared : name ∈ fields.names
  · by_cases skipped : Skips mode defaults members name
    · rw [accepts.skipped name skipped, accepts'.skipped name ((same.skips_iff declared).1 skipped)]
    · have skipped' := fun skips => skipped ((same.skips_iff declared).2 skips)
      obtain ⟨schema, among⟩ := Members.exists_of_mem_names declared
      obtain ⟨made, checked, read⟩ := accepts.examined name schema among skipped
      obtain ⟨made', checked', read'⟩ := accepts'.examined name schema among skipped'
      -- The same check of the same value makes the same of it.
      rw [candidate_eq_standing] at checked checked'
      rw [← same.standing name declared, ← blind name schema among, checked] at checked'
      cases checked'
      rw [read, read']
      cases defined : made.isUndefined with
      | false => simp
      | true =>
        -- Only what is undefined is kept as undefined, and there the sides hold the same names.
        have undefined : (Schema.standing defaults members name).isUndefined = true := by
          rw [Value.isUndefined_iff] at defined
          subst defined
          rw [(kept _ _ _ _ checked).eq_undefined]
          rfl
        rw [Members.contains_congr (same.undefined name declared undefined)]
  · rw [accepts.undeclared name declared, accepts'.undeclared name declared,
      same.undeclared name declared]

/-- Checks of two objects in which a shape comes upon the same concur, if its fields do not look at the
container and keep what is defined. -/
theorem concur (same : SameStanding defaults defaults' fields members members')
    (declaredOnce : fields.names.Nodup) (distinct : members.names.Nodup)
    (distinct' : members'.names.Nodup)
    (blind : ∀ name schema, (name, schema) ∈ fields → ∀ value,
      check schema value (some (.object members)) = check schema value (some (.object members')))
    (kept : ∀ schema value parent made, check schema value parent = .ok (.ok made) →
      value.Kept made) :
    Concur (checkShape check mode defaults fields members)
      (checkShape check mode defaults' fields members') := by
  -- The places depend neither on the type nor on the guard, so any will do.
  let guard : Predicate := fun _ _ => .pass
  let label : Label := ⟨"", defaults⟩
  let label' : Label := ⟨"", defaults'⟩
  have collects : Collects (checkShape check mode label.defaults fields members) _ :=
    collects_checkShape guard declaredOnce distinct
  have collects' : Collects (checkShape check mode label'.defaults fields members') _ :=
    collects_checkShape guard declaredOnce distinct'
  refine collects.concur collects'
    (same.perm_steps "" guard declaredOnce distinct distinct') ?_ ?_
  · intro place among
    obtain ⟨name, rfl, _⟩ := (mem_steps_shape label guard declaredOnce distinct).1 among
    exact same.findings_eq "" guard blind name
  · intro value value' checked checked'
    obtain ⟨results, rfl, accepts⟩ := checkShape_eq_ok declaredOnce distinct checked
    obtain ⟨results', rfl, accepts'⟩ := checkShape_eq_ok declaredOnce distinct' checked'
    exact ⟨results, results', rfl, rfl, same.perm_accepted blind kept accepts accepts'⟩

end SameStanding

end Schema

end Conform
