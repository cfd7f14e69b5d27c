import Conform.Proofs.Traversal
import Conform.Schema.Validate

/-! What the loops of validation come to: over slots, over alternatives, and over parts in a row. -/

namespace Conform

namespace ValidationError

/-- An error has a failure. -/
@[simp] theorem failures_ne_nil (error : ValidationError) : error.failures ≠ [] := by
  simp [failures]

/-- Another type over an error leaves its failures alone. -/
@[simp] theorem failures_retype (expected : String) (error : ValidationError) :
    (error.retype expected).failures = error.failures :=
  rfl

/-- A container reports at least one failure of an error inside it. -/
theorem nestedFailures_ne_nil (segment : Segment) (container : Value) (error : ValidationError) :
    error.nestedFailures segment container ≠ [] := by
  simp [nestedFailures]

/-- A list of failures that makes an error is the list of its failures. -/
theorem ofFailures?_eq_some {failures : List Failure} {error : ValidationError}
    (made : ofFailures? failures = some error) :
    error.override = none ∧ error.failures = failures := by
  -- The first failure and the rest are put down as they are.
  cases failures with
  | nil => simp [ofFailures?] at made
  | cons first rest =>
    simp only [ofFailures?, Option.some.injEq] at made
    subst made
    exact ⟨rfl, rfl⟩

end ValidationError

/-- The failures that a finding reports. -/
def reportedFailures {α : Type} : Except (List Failure) α → List Failure
  | .ok _ => []
  | .error failures => failures

/-- Gathering makes an error of all reported failures, if there are any. -/
theorem gather_eq {α : Type} (findings : List (Except (List Failure) α)) :
    gather findings =
      match ValidationError.ofFailures? (findings.flatMap reportedFailures) with
      | some error => .error error
      | none => .ok (findings.filterMap Except.toOption) :=
  rfl

/-- Findings without failures are gathered into their results, in order. -/
theorem gather_eq_ok_iff {α : Type} {findings : List (Except (List Failure) α)}
    (reported : ∀ failures, .error failures ∈ findings → failures ≠ []) {results : List α} :
    gather findings = .ok results ↔ findings = results.map .ok := by
  rw [gather_eq]
  constructor
  · intro gathered
    cases all : findings.flatMap reportedFailures with
    | cons first rest => simp [all, ValidationError.ofFailures?] at gathered
    | nil =>
      simp only [all, ValidationError.ofFailures?, Except.ok.injEq] at gathered
      subst gathered
      -- Nothing is reported, so no finding is an error and each gives its result.
      have noErrors : ∀ finding ∈ findings, ∃ result, finding = .ok result := by
        intro finding found
        cases finding with
        | ok result => exact ⟨result, rfl⟩
        | error failures =>
          exact absurd (List.flatMap_eq_nil_iff.1 all _ found) (reported failures found)
      clear all reported
      induction findings with
      | nil => rfl
      | cons finding rest ih =>
        obtain ⟨result, rfl⟩ := noErrors finding (by simp)
        have tail := ih fun other found => noErrors other (by simp [found])
        simpa [Except.toOption] using tail
  · intro same
    subst same
    -- Results report nothing, and picking them out gives them back.
    have nothing : (results.map Except.ok).flatMap reportedFailures = [] := by
      simp [List.flatMap_eq_nil_iff, reportedFailures]
    rw [nothing]
    simp [ValidationError.ofFailures?, List.filterMap_map, Function.comp_def, Except.toOption]

/-- The gathered error has the failures of all findings, in order and under no type of its own. -/
theorem gather_eq_error {α : Type} {findings : List (Except (List Failure) α)}
    {error : ValidationError} (gathered : gather findings = .error error) :
    error.override = none ∧ error.failures = findings.flatMap reportedFailures := by
  -- An error is only made of failures that are there.
  rw [gather_eq] at gathered
  cases made : ValidationError.ofFailures? (findings.flatMap reportedFailures) with
  | none => simp [made] at gathered
  | some found =>
    simp only [made, Except.error.injEq] at gathered
    subst gathered
    exact ValidationError.ofFailures?_eq_some made

namespace Slot

/-- A slot accepts what the schema declared for it makes of its value. -/
def Accepts (check : Checker) (container : Value) (slot : Slot) (value : Value) : Prop :=
  ∃ schema, slot.declared = some schema ∧
    check schema slot.value (some container) = .ok (.ok value)

/-- A slot refuses its value if nothing is declared for it, or if the schema that is refuses it. -/
def Refuses (check : Checker) (container : Value) (slot : Slot) (failures : List Failure) : Prop :=
  slot.declared = none ∧
      failures = [⟨container, [slot.segment], slot.value, none, "undefined"⟩] ∨
    -- Its failures are told from the container and one step further in.
    ∃ schema error, slot.declared = some schema ∧
      check schema slot.value (some container) = .ok (.error error) ∧
      failures = error.nestedFailures slot.segment container

variable {check : Checker} {container : Value} {slot : Slot}

/-- A visit that succeeds comes back with the slot and what it accepts. -/
theorem visit_eq_ok_iff {result : Slot × Value} :
    visit check container slot = .ok (.ok result) ↔
      result.1 = slot ∧ slot.Accepts check container result.2 := by
  obtain ⟨visited, value⟩ := result
  unfold visit Accepts
  cases slot.declared with
  | none => simp
  | some schema =>
    simp only [bind_eq_ok_iff]
    constructor
    · intro ran
      obtain ⟨outcome, checked, returned⟩ := ran
      -- Only a check that accepts makes the visit succeed.
      cases outcome <;> simp [Pure.pure, Except.pure] at returned
      obtain ⟨rfl, rfl⟩ := returned
      exact ⟨rfl, schema, rfl, checked⟩
    · intro accepts
      obtain ⟨rfl, declared, same, checked⟩ := accepts
      cases same
      exact ⟨.ok value, checked, rfl⟩

/-- A visit that fails comes back with the failures that the slot refuses its value with. -/
theorem visit_eq_error_iff {failures : List Failure} :
    visit check container slot = .ok (.error failures) ↔
      slot.Refuses check container failures := by
  unfold visit Refuses
  cases slot.declared with
  | none => simp [eq_comm]
  | some schema =>
    simp only [bind_eq_ok_iff]
    constructor
    · intro ran
      obtain ⟨outcome, checked, returned⟩ := ran
      -- Only a check that refuses makes the visit fail.
      cases outcome <;> simp [Pure.pure, Except.pure] at returned
      exact .inr ⟨schema, _, rfl, checked, returned.symm⟩
    · intro refuses
      rcases refuses with ⟨undeclared, _⟩ | ⟨declared, error, same, checked, rfl⟩
      · cases undeclared
      · cases same
        exact ⟨.error error, checked, rfl⟩

/-- A slot that refuses its value reports a failure. -/
theorem Refuses.ne_nil {failures : List Failure} (refuses : slot.Refuses check container failures) :
    failures ≠ [] := by
  -- An undeclared slot reports itself, and any other the failures of an error.
  rcases refuses with ⟨_, rfl⟩ | ⟨_, error, _, _, rfl⟩
  · simp
  · exact error.nestedFailures_ne_nil slot.segment container

end Slot

variable {check : Checker} {container : Value} {slots : List Slot}

/-- A visit of all slots succeeds with what each of them accepts, in their order. -/
theorem visitAll_eq_ok_iff {results : List (Slot × Value)} :
    visitAll check container slots = .ok (.ok results) ↔
      List.Forall₂ (fun slot result => result.1 = slot ∧ slot.Accepts check container result.2)
        slots results := by
  unfold visitAll
  simp only [bind_eq_ok_iff, mapM_eq_ok_iff, Pure.pure, Except.pure, Except.ok.injEq]
  have reported : ∀ {findings : List (Except (List Failure) (Slot × Value))},
      List.Forall₂ (fun slot finding => slot.visit check container = .ok finding) slots findings →
        ∀ failures, .error failures ∈ findings → failures ≠ [] := by
    intro findings visited failures found
    obtain ⟨slot, _, refused⟩ := exists_related visited.flip _ found
    exact (Slot.visit_eq_error_iff.1 refused).ne_nil
  constructor
  · intro ran
    obtain ⟨findings, visited, gathered⟩ := ran
    -- What is gathered without failures are the findings of all slots.
    rw [gather_eq_ok_iff (reported visited)] at gathered
    subst gathered
    exact (List.forall₂_map_right_iff.1 visited).imp fun _ _ => Slot.visit_eq_ok_iff.1
  · intro accepted
    have visited : List.Forall₂ (fun slot finding => slot.visit check container = .ok finding)
        slots (results.map .ok) :=
      List.forall₂_map_right_iff.2 (accepted.imp fun _ _ => Slot.visit_eq_ok_iff.2)
    exact ⟨_, visited, (gather_eq_ok_iff (reported visited)).2 rfl⟩

/-- A visit of all slots fails with the failures of those that refuse their values, in order. -/
theorem visitAll_eq_error {error : ValidationError}
    (visited : visitAll check container slots = .ok (.error error)) :
    ∃ findings, List.Forall₂ (fun slot finding => slot.visit check container = .ok finding)
        slots findings ∧
      error.override = none ∧ error.failures = findings.flatMap reportedFailures := by
  -- Every slot has been visited before the findings are gathered.
  unfold visitAll at visited
  simp only [bind_eq_ok_iff, mapM_eq_ok_iff, Pure.pure, Except.pure, Except.ok.injEq] at visited
  obtain ⟨findings, each, gathered⟩ := visited
  exact ⟨findings, each, gather_eq_error gathered⟩

/-- Every failure of a visit of all slots is one of a slot that refuses its value. -/
theorem exists_refusing_slot {error : ValidationError}
    (visited : visitAll check container slots = .ok (.error error)) :
    ∀ failure ∈ error.failures, ∃ slot ∈ slots, ∃ failures,
      slot.Refuses check container failures ∧ failure ∈ failures := by
  obtain ⟨findings, each, _, all⟩ := visitAll_eq_error visited
  intro failure found
  -- The failure is one of a finding, which is that of a slot.
  rw [all] at found
  obtain ⟨finding, among, inside⟩ := List.mem_flatMap.1 found
  obtain ⟨slot, present, refused⟩ := exists_related each.flip _ among
  cases finding with
  | ok => simp [reportedFailures] at inside
  | error failures => exact ⟨slot, present, failures, Slot.visit_eq_error_iff.1 refused, inside⟩

namespace Schema

/-- An accepted union is accepted by one alternative, after refusals by those before it. -/
theorem firstAccepting_eq_ok {check : Schema → Run Outcome} {alternatives : List Schema}
    {first : Option ValidationError} {accepted : Value}
    (run : firstAccepting check alternatives first = .ok (.ok accepted)) :
    ∃ before alternative after, alternatives = before ++ alternative :: after ∧
      (∀ earlier ∈ before, ∃ error, check earlier = .ok (.error error)) ∧
      check alternative = .ok (.ok accepted) := by
  -- Either the first alternative accepts, or it refuses and one of the rest accepts.
  induction alternatives generalizing first with
  | nil => simp [firstAccepting] at run
  | cons alternative rest ih =>
    simp only [firstAccepting, bind_eq_ok_iff] at run
    obtain ⟨outcome, checked, continued⟩ := run
    cases outcome with
    | ok value =>
      simp only [Pure.pure, Except.pure, Except.ok.injEq] at continued
      subst continued
      exact ⟨[], alternative, rest, rfl, by simp, checked⟩
    | error error =>
      obtain ⟨before, later, after, rfl, refused, accepting⟩ := ih continued
      refine ⟨alternative :: before, later, after, rfl, ?_, accepting⟩
      intro earlier among
      rcases List.mem_cons.1 among with rfl | among
      · exact ⟨error, checked⟩
      · exact refused earlier among

/-- A refused union is refused by every alternative, and the first error is the one kept. -/
theorem firstAccepting_eq_error {check : Schema → Run Outcome} {alternatives : List Schema}
    {first kept : Option ValidationError}
    (run : firstAccepting check alternatives first = .ok (.error kept)) :
    ∃ errors, List.Forall₂ (fun alternative error => check alternative = .ok (.error error))
      alternatives errors ∧ kept = first.or errors.head? := by
  -- Every alternative refuses, and an error that is already kept stays.
  induction alternatives generalizing first with
  | nil =>
    simp only [firstAccepting, Except.ok.injEq, Except.error.injEq] at run
    exact ⟨[], .nil, by simp [run]⟩
  | cons alternative rest ih =>
    simp only [firstAccepting, bind_eq_ok_iff] at run
    obtain ⟨outcome, checked, continued⟩ := run
    cases outcome with
    | ok value => simp [Pure.pure, Except.pure] at continued
    | error error =>
      obtain ⟨errors, refused, rfl⟩ := ih continued
      exact ⟨error :: errors, .cons checked refused, by cases first <;> simp⟩

/-- A union accepts with its first accepting alternative. -/
theorem firstAccepting_of_accepting {check : Schema → Run Outcome} {before after : List Schema}
    {alternative : Schema} {accepted : Value}
    (earlier : ∀ schema ∈ before, ∃ error, check schema = .ok (.error error))
    (checked : check alternative = .ok (.ok accepted)) (first : Option ValidationError) :
    firstAccepting check (before ++ alternative :: after) first = .ok (.ok accepted) := by
  -- The alternatives in front are passed by, whatever error is kept meanwhile.
  induction before generalizing first with
  | nil =>
    simp only [List.nil_append, firstAccepting, bind_eq_ok_iff]
    exact ⟨.ok accepted, checked, rfl⟩
  | cons schema rest ih =>
    obtain ⟨error, refused⟩ := earlier schema List.mem_cons_self
    have continued := ih (fun later among => earlier later (List.mem_cons_of_mem _ among))
      (first.or (some error))
    simp only [List.cons_append, firstAccepting, bind_eq_ok_iff]
    exact ⟨.error error, refused, continued⟩

/-- A union comes to the same end under checks that agree on its alternatives. -/
theorem firstAccepting_congr {check other : Schema → Run Outcome} {alternatives : List Schema}
    (same : ∀ alternative ∈ alternatives, check alternative = other alternative)
    (first : Option ValidationError) :
    firstAccepting check alternatives first = firstAccepting other alternatives first := by
  -- The alternatives are tried in the same order, with the same error kept.
  induction alternatives generalizing first with
  | nil => rfl
  | cons alternative rest ih =>
    have others := ih fun later among => same later (List.mem_cons_of_mem _ among)
    simp only [firstAccepting, same alternative List.mem_cons_self, others]

variable {check : Schema → Value → Run Outcome} {part : Schema} {rest : List Schema} {value : Value}

/-- Parts in a row come to the same end under checks that agree on each of them. -/
theorem passThrough_congr {other : Schema → Value → Run Outcome} {parts : List Schema}
    (same : ∀ part ∈ parts, ∀ value, check part value = other part value) (value : Value) :
    passThrough check parts value = passThrough other parts value := by
  -- Each part hands on the same value under both checks.
  induction parts generalizing value with
  | nil => rfl
  | cons part rest ih =>
    have others := ih fun later among => same later (List.mem_cons_of_mem _ among)
    simp only [passThrough, same part List.mem_cons_self, others]

/-- Parts in a row accept when the first does and the others accept what it makes of the value. -/
theorem passThrough_cons_eq_ok_iff {accepted : Value} :
    passThrough check (part :: rest) value = .ok (.ok accepted) ↔
      ∃ passed, check part value = .ok (.ok passed) ∧
        passThrough check rest passed = .ok (.ok accepted) := by
  simp only [passThrough, bind_eq_ok_iff]
  constructor
  · intro ran
    obtain ⟨outcome, checked, continued⟩ := ran
    -- An error would have ended the run.
    cases outcome with
    | ok passed => exact ⟨passed, checked, continued⟩
    | error error => simp [Pure.pure, Except.pure] at continued
  · intro accepting
    obtain ⟨passed, checked, continued⟩ := accepting
    exact ⟨.ok passed, checked, continued⟩

/-- Parts in a row refuse when the first does, or when the others refuse what it makes of the
value. -/
theorem passThrough_cons_eq_error_iff {error : ValidationError} :
    passThrough check (part :: rest) value = .ok (.error error) ↔
      check part value = .ok (.error error) ∨
      ∃ passed, check part value = .ok (.ok passed) ∧
        passThrough check rest passed = .ok (.error error) := by
  simp only [passThrough, bind_eq_ok_iff]
  constructor
  · intro ran
    obtain ⟨outcome, checked, continued⟩ := ran
    -- The error of the first part is returned as it is.
    cases outcome with
    | ok passed => exact .inr ⟨passed, checked, continued⟩
    | error found =>
      simp only [Pure.pure, Except.pure, Except.ok.injEq, Except.error.injEq] at continued
      exact .inl (continued ▸ checked)
  · intro refusing
    rcases refusing with checked | ⟨passed, checked, continued⟩
    · exact ⟨.error error, checked, rfl⟩
    · exact ⟨.ok passed, checked, continued⟩

/-- What every part keeps of the value it sees, and what it does to it, holds of parts in a row. -/
theorem passThrough_relates {relation : Value → Value → Prop} {sound : Value → Prop}
    (refl : ∀ value, relation value value)
    (trans : ∀ {first second third}, relation first second → relation second third →
      relation first third) {parts : List Schema}
    (each : ∀ part ∈ parts, ∀ value accepted, sound value →
      check part value = .ok (.ok accepted) → relation value accepted ∧ sound accepted)
    {accepted : Value} (holds : sound value)
    (passed : passThrough check parts value = .ok (.ok accepted)) :
    relation value accepted ∧ sound accepted := by
  -- Each part starts from what the one before it has made of the value.
  induction parts generalizing value with
  | nil =>
    cases passed
    exact ⟨refl _, holds⟩
  | cons part rest ih =>
    obtain ⟨middle, checked, continued⟩ := passThrough_cons_eq_ok_iff.1 passed
    obtain ⟨first, holdsNext⟩ := each part (by simp) value middle holds checked
    obtain ⟨others, holdsLast⟩ := ih (fun later among => each later (by simp [among])) holdsNext
      continued
    exact ⟨trans first others, holdsLast⟩

/-- A value that every part gives back goes through parts in a row unchanged. -/
theorem passThrough_of_fixed {parts : List Schema}
    (fixed : ∀ part ∈ parts, check part value = .ok (.ok value)) :
    passThrough check parts value = .ok (.ok value) := by
  -- Each part hands the value on just as it was given it.
  induction parts with
  | nil => rfl
  | cons part rest ih =>
    have others := ih fun later among => fixed later (List.mem_cons_of_mem _ among)
    exact passThrough_cons_eq_ok_iff.2 ⟨value, fixed part List.mem_cons_self, others⟩

/-- If no part changes the value, then parts in a row that accept have all accepted it. -/
theorem passThrough_ok_of_unchanged {parts : List Schema} {accepted : Value}
    (unchanged : ∀ part ∈ parts, ∀ passed, check part value = .ok (.ok passed) → passed = value)
    (passed : passThrough check parts value = .ok (.ok accepted)) :
    accepted = value ∧ ∀ part ∈ parts, check part value = .ok (.ok value) := by
  -- What the first part has made of the value is the value, so the others see it as well.
  induction parts with
  | nil =>
    cases passed
    exact ⟨rfl, by simp⟩
  | cons part rest ih =>
    obtain ⟨middle, checked, continued⟩ := passThrough_cons_eq_ok_iff.1 passed
    obtain rfl := unchanged part (by simp) middle checked
    obtain ⟨same, others⟩ := ih (fun later among => unchanged later (by simp [among])) continued
    refine ⟨same, fun later among => ?_⟩
    rcases List.mem_cons.1 among with rfl | among
    · exact checked
    · exact others later among

/-- Parts in a row refuse exactly when one of them refuses what those before it make of the value. -/
theorem passThrough_eq_error_iff {parts : List Schema} {error : ValidationError} :
    passThrough check parts value = .ok (.error error) ↔
      ∃ before part after passed, parts = before ++ part :: after ∧
        passThrough check before value = .ok (.ok passed) ∧
        check part passed = .ok (.error error) := by
  -- The first part refuses, or the others refuse what it hands on.
  induction parts generalizing value with
  | nil => simp [passThrough]
  | cons first rest ih =>
    rw [passThrough_cons_eq_error_iff]
    constructor
    · intro refusing
      rcases refusing with refused | ⟨middle, checked, continued⟩
      · exact ⟨[], first, rest, value, rfl, rfl, refused⟩
      · obtain ⟨before, part, after, passed, rfl, accepted, refused⟩ := ih.1 continued
        exact ⟨first :: before, part, after, passed, rfl,
          passThrough_cons_eq_ok_iff.2 ⟨middle, checked, accepted⟩, refused⟩
    · intro split
      obtain ⟨before, part, after, passed, same, accepted, refused⟩ := split
      cases before with
      | nil =>
        cases same
        cases accepted
        exact .inl refused
      | cons head before =>
        cases same
        obtain ⟨middle, checked, continued⟩ := passThrough_cons_eq_ok_iff.1 accepted
        exact .inr ⟨middle, checked, ih.2 ⟨before, part, after, passed, rfl, continued, refused⟩⟩

/-- If no part changes the value, then one of the parts in a row that refuse has refused it. -/
theorem passThrough_error_of_unchanged {parts : List Schema} {error : ValidationError}
    (unchanged : ∀ part ∈ parts, ∀ passed, check part value = .ok (.ok passed) → passed = value)
    (passed : passThrough check parts value = .ok (.error error)) :
    ∃ part ∈ parts, check part value = .ok (.error error) := by
  obtain ⟨before, part, after, middle, rfl, accepted, refused⟩ := passThrough_eq_error_iff.1 passed
  -- The parts in front of the one that refuses have handed the value on as it was.
  obtain ⟨rfl, _⟩ := passThrough_ok_of_unchanged (fun earlier among => unchanged earlier
    (List.mem_append_left _ among)) accepted
  exact ⟨part, by simp, refused⟩

end Schema

end Conform
