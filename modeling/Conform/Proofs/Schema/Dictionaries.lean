import Conform.Proofs.Members
import Conform.Proofs.Schema.Visit

/-! What the check of a dictionary accepts, entry by entry. -/

namespace Conform

/-- Members that are related under the same names have the same names. -/
theorem names_of_related {α β : Type} {relation : String × α → String × β → Prop}
    {members : Members α} {results : Members β}
    (related : List.Forall₂ (fun entry result => result.1 = entry.1 ∧ relation entry result)
      members results) : results.names = members.names := by
  -- Both lists of names are read off the pairs, one after another.
  rw [Members.names_eq_map, Members.names_eq_map]
  induction related with
  | nil => rfl
  | cons head _ ih => simp [head.1, ih]

namespace Schema

variable {check : Checker} {key item : Schema} {container : Value} {members : Members Value}

/-- A member of a dictionary is accepted when its key is and then its value. -/
def EntryAccepts (check : Checker) (key item : Schema) (container : Value)
    (entry result : String × Value) : Prop :=
  ∃ accepted, check key (.string entry.1) (some container) = .ok (.ok accepted) ∧
    keyText accepted = .ok result.1 ∧
    check item entry.2 (some container) = .ok (.ok result.2)

/-- A member of a dictionary is refused when its key is, or else its value. -/
def EntryRefuses (check : Checker) (key item : Schema) (container : Value)
    (entry : String × Value) (failures : List Failure) : Prop :=
  (∃ error, check key (.string entry.1) (some container) = .ok (.error error) ∧
    failures = error.nestedFailures (.key entry.1) container) ∨
  -- A refused value is reported under the name that its key was coerced to.
  ∃ accepted name error, check key (.string entry.1) (some container) = .ok (.ok accepted) ∧
    keyText accepted = .ok name ∧
    check item entry.2 (some container) = .ok (.error error) ∧
    failures = error.nestedFailures (.key name) container

/-- Checking an entry gives what it is accepted as. -/
theorem checkEntry_eq_ok_iff {entry result : String × Value} :
    checkEntry check key item container entry = .ok (.ok result) ↔
      EntryAccepts check key item container entry result := by
  obtain ⟨name, value⟩ := result
  simp only [checkEntry, EntryAccepts, bind_eq_ok_iff]
  constructor
  · intro ran
    obtain ⟨outcome, checked, continued⟩ := ran
    -- The key has been accepted, then read as a name, and then the value has been accepted.
    cases outcome with
    | error error => simp [Pure.pure, Except.pure] at continued
    | ok accepted =>
      simp only [bind_eq_ok_iff] at continued
      obtain ⟨text, read, outcome, checkedItem, returned⟩ := continued
      cases outcome with
      | error error => simp [Pure.pure, Except.pure] at returned
      | ok value =>
        simp only [Pure.pure, Except.pure, Except.ok.injEq, Prod.mk.injEq] at returned
        obtain ⟨rfl, rfl⟩ := returned
        exact ⟨accepted, checked, read, checkedItem⟩
  · intro accepts
    obtain ⟨accepted, checked, read, checkedItem⟩ := accepts
    refine ⟨.ok accepted, checked, ?_⟩
    simp only [bind_eq_ok_iff]
    exact ⟨name, read, .ok value, checkedItem, rfl⟩

/-- Checking an entry fails with what it is refused for. -/
theorem entryRefuses_of_checkEntry {entry : String × Value} {failures : List Failure}
    (checked : checkEntry check key item container entry = .ok (.error failures)) :
    EntryRefuses check key item container entry failures := by
  -- The key is refused, or it is accepted and the value is refused.
  simp only [checkEntry, bind_eq_ok_iff] at checked
  obtain ⟨outcome, checkedKey, continued⟩ := checked
  cases outcome with
  | error error =>
    simp only [Pure.pure, Except.pure, Except.ok.injEq, Except.error.injEq] at continued
    exact .inl ⟨error, checkedKey, continued.symm⟩
  | ok accepted =>
    simp only [bind_eq_ok_iff] at continued
    obtain ⟨name, read, outcome, checkedItem, returned⟩ := continued
    cases outcome with
    | ok value => simp [Pure.pure, Except.pure] at returned
    | error error =>
      simp only [Pure.pure, Except.pure, Except.ok.injEq, Except.error.injEq] at returned
      exact .inr ⟨accepted, name, error, checkedKey, read, checkedItem, returned.symm⟩

/-- An entry that is refused reports a failure. -/
theorem EntryRefuses.ne_nil {entry : String × Value} {failures : List Failure}
    (refuses : EntryRefuses check key item container entry failures) : failures ≠ [] := by
  -- Either the name or the value is refused, with an error that is not empty.
  rcases refuses with ⟨error, _, rfl⟩ | ⟨_, _, error, _, _, _, rfl⟩
  all_goals exact error.nestedFailures_ne_nil _ _

/-- A dictionary is accepted when each of its entries is. -/
theorem checkDict_eq_ok_iff {accepted : Value} :
    checkDict check key item members = .ok (.ok accepted) ↔
      ∃ results, accepted = Value.ofPairs results ∧
        List.Forall₂ (EntryAccepts check key item (.object members)) members results := by
  simp only [checkDict, bind_eq_ok_iff, mapM_eq_ok_iff, Pure.pure, Except.pure, Except.ok.injEq]
  -- An entry that is refused reports something, so no refusal is lost among the findings.
  have reported : ∀ {findings : List (Except (List Failure) (String × Value))},
      List.Forall₂ (fun entry finding =>
        checkEntry check key item (.object members) entry = .ok finding) members findings →
      ∀ failures, .error failures ∈ findings → failures ≠ [] := by
    intro findings checked failures found
    obtain ⟨entry, _, refused⟩ := exists_related checked.flip _ found
    exact (entryRefuses_of_checkEntry refused).ne_nil
  constructor
  · intro ran
    obtain ⟨findings, checked, mapped⟩ := ran
    cases gathered : gather findings with
    | error error => simp [gathered, Except.map] at mapped
    | ok results =>
      simp only [gathered, Except.map, Except.ok.injEq] at mapped
      rw [gather_eq_ok_iff (reported checked)] at gathered
      subst gathered
      -- Nothing has been found, so every finding is an accepted entry.
      refine ⟨results, mapped.symm, ?_⟩
      exact (List.forall₂_map_right_iff.1 checked).imp fun _ _ => checkEntry_eq_ok_iff.1
  · intro accepting
    obtain ⟨results, rfl, each⟩ := accepting
    have checked : List.Forall₂ (fun entry finding =>
        checkEntry check key item (.object members) entry = .ok finding) members
        (results.map .ok) :=
      List.forall₂_map_right_iff.2 (each.imp fun _ _ => checkEntry_eq_ok_iff.2)
    exact ⟨_, checked, by rw [(gather_eq_ok_iff (reported checked)).2 rfl]; rfl⟩

/-- A dictionary is refused with the failures of those entries that are, in order. -/
theorem checkDict_eq_error {error : ValidationError}
    (checked : checkDict check key item members = .ok (.error error)) :
    ∃ findings, List.Forall₂ (fun entry finding =>
        checkEntry check key item (.object members) entry = .ok finding) members findings ∧
      error.override = none ∧ error.failures = findings.flatMap reportedFailures := by
  simp only [checkDict, bind_eq_ok_iff, mapM_eq_ok_iff, Pure.pure, Except.pure,
    Except.ok.injEq] at checked
  obtain ⟨findings, each, mapped⟩ := checked
  -- Every entry has been checked before the findings are gathered.
  cases gathered : gather findings with
  | ok results => simp [gathered, Except.map] at mapped
  | error found =>
    simp only [gathered, Except.map, Except.error.injEq] at mapped
    subst mapped
    exact ⟨findings, each, gather_eq_error gathered⟩

/-- Every failure of a dictionary is one of an entry that is refused. -/
theorem exists_refusing_entry {error : ValidationError}
    (checked : checkDict check key item members = .ok (.error error)) :
    ∀ failure ∈ error.failures, ∃ entry ∈ members, ∃ failures,
      EntryRefuses check key item (.object members) entry failures ∧ failure ∈ failures := by
  obtain ⟨findings, each, _, all⟩ := checkDict_eq_error checked
  intro failure among
  -- The failure is one of a finding, which is that of an entry.
  rw [all] at among
  obtain ⟨finding, present, inside⟩ := List.mem_flatMap.1 among
  obtain ⟨entry, held, refused⟩ := exists_related each.flip _ present
  cases finding with
  | ok => simp [reportedFailures] at inside
  | error failures => exact ⟨entry, held, failures, entryRefuses_of_checkEntry refused, inside⟩

/-- If accepted keys stay as they are, an accepted dictionary keeps its names and their order. -/
theorem checkDict_eq_ok_iff_of_kept (distinct : members.names.Nodup) {accepted : Value}
    (kept : ∀ name result, check key (.string name) (some (.object members)) = .ok (.ok result) →
      result = .string name) :
    checkDict check key item members = .ok (.ok accepted) ↔
      ∃ results, accepted = .object results ∧
        List.Forall₂ (fun entry result => result.1 = entry.1 ∧
          check key (.string entry.1) (some (.object members)) = .ok (.ok (.string entry.1)) ∧
          check item entry.2 (some (.object members)) = .ok (.ok result.2)) members results := by
  rw [checkDict_eq_ok_iff]
  refine exists_congr fun results => ?_
  -- A key that stays as it is gives its entry the name that it had.
  have keys : List.Forall₂ (EntryAccepts check key item (.object members)) members results ↔
      List.Forall₂ (fun entry result => result.1 = entry.1 ∧
        check key (.string entry.1) (some (.object members)) = .ok (.ok (.string entry.1)) ∧
        check item entry.2 (some (.object members)) = .ok (.ok result.2)) members results := by
    constructor
    · refine List.Forall₂.imp fun entry result accepts => ?_
      obtain ⟨name, checked, read, checkedItem⟩ := accepts
      obtain rfl := kept _ _ checked
      have same : entry.1 = result.1 := by simpa [keyText, Value.toText?] using read
      exact ⟨same.symm, checked, checkedItem⟩
    · refine List.Forall₂.imp fun entry result accepts => ?_
      obtain ⟨same, checked, checkedItem⟩ := accepts
      exact ⟨_, checked, by rw [same]; rfl, checkedItem⟩
  rw [keys]
  refine and_congr_left fun each => ?_
  -- The results stand under the names of the members, so building them up changes nothing.
  rw [Value.ofPairs, Members.ofPairs_of_nodup (names_of_related each ▸ distinct)]

end Schema

end Conform
