import Conform.Proofs.Schema.Graph
import Conform.Proofs.Schema.Kept
import Conform.Proofs.Schema.Opening

/-! A validation that comes to no end has gone too deep, or has met a reference that is not known. -/

namespace Conform

variable {check : Checker} {container value : Value} {parent : Option Value} {reason : Stop}

/-- A slot that stops has been stopped by what is declared for it. -/
theorem Slot.exists_stop {slot : Slot} (stopped : slot.visit check container = .error reason) :
    ∃ field, slot.declared = some field ∧ check field slot.value (some container) = .error reason := by
  unfold Slot.visit at stopped
  cases declared : slot.declared with
  | none => simp [declared] at stopped
  | some field =>
    rw [declared, bind_eq_error_iff] at stopped
    rcases stopped with stopped | ⟨outcome, _, stopped⟩
    · exact ⟨field, rfl, stopped⟩
    · -- Once the check has come to an outcome, nothing stops it.
      cases outcome <;> cases stopped

/-- Slots that stop have been stopped by one of them. -/
theorem exists_stop_of_visitAll {slots : List Slot}
    (stopped : visitAll check container slots = .error reason) :
    ∃ slot ∈ slots, ∃ field, slot.declared = some field ∧
      check field slot.value (some container) = .error reason := by
  -- Gathering what has been found does not stop, so a visit has.
  obtain ⟨slot, among, stopped⟩ := exists_error_of_mapM (bind_pure_eq_error_iff.1 stopped)
  exact ⟨slot, among, slot.exists_stop stopped⟩

namespace Schema

variable {links : Links} {schema : Schema}

/-- A shape stops in one of its slots. -/
theorem visitAll_of_checkShape_stopped {mode : ShapeMode} {defaults : Option Defaults}
    {fields : Members Schema} {members : Members Value}
    (stopped : checkShape check mode defaults fields members = .error reason) :
    visitAll check (.object members) (shapeSlots mode defaults fields members) = .error reason := by
  -- Putting the results together does not stop, so the visit has.
  unfold checkShape at stopped
  rcases bind_eq_error_iff.1 stopped with stopped | ⟨found, _, stopped⟩
  · exact stopped
  · cases found <;> cases stopped

/-- An entry stops at its key or at its value, if keys that are accepted stay what they are. -/
theorem exists_stop_of_checkEntry {key item : Schema} {entry : String × Value}
    (kept : ∀ accepted, check key (.string entry.1) (some container) = .ok (.ok accepted) →
      accepted = .string entry.1)
    (stopped : checkEntry check key item container entry = .error reason) :
    check key (.string entry.1) (some container) = .error reason ∨
      check item entry.2 (some container) = .error reason := by
  unfold checkEntry at stopped
  rcases bind_eq_error_iff.1 stopped with stopped | ⟨found, checked, stopped⟩
  · exact .inl stopped
  · cases found with
    | error error => cases stopped
    | ok accepted =>
      -- The key is still a text, and a text has itself for a text.
      obtain rfl := kept accepted checked
      rcases bind_eq_error_iff.1 stopped with unprintable | ⟨name, _, stopped⟩
      · cases unprintable
      · rcases bind_eq_error_iff.1 stopped with stopped | ⟨found, _, stopped⟩
        · exact .inr stopped
        · cases found <;> cases stopped

/-- A union stops at one of its alternatives. -/
theorem exists_stop_of_firstAccepting {check : Schema → Run Outcome} {alternatives : List Schema}
    {first : Option ValidationError}
    (stopped : firstAccepting check alternatives first = .error reason) :
    ∃ alternative ∈ alternatives, check alternative = .error reason := by
  -- Up to the one that stops every alternative has refused.
  induction alternatives generalizing first with
  | nil => cases stopped
  | cons alternative rest ih =>
    rw [firstAccepting] at stopped
    rcases bind_eq_error_iff.1 stopped with stopped | ⟨found, _, stopped⟩
    · exact ⟨alternative, List.mem_cons_self, stopped⟩
    · cases found with
      | ok accepted => cases stopped
      | error error =>
        obtain ⟨later, among, stopped⟩ := ih stopped
        exact ⟨later, List.mem_cons_of_mem _ among, stopped⟩

/-- An intersection stops at one of its parts, whatever has become of the value before. -/
theorem exists_stop_of_passThrough {check : Schema → Value → Run Outcome} {parts : List Schema}
    (stopped : passThrough check parts value = .error reason) :
    ∃ part ∈ parts, ∃ handed, check part handed = .error reason := by
  -- Up to the one that stops every part has accepted.
  induction parts generalizing value with
  | nil => cases stopped
  | cons part rest ih =>
    rw [passThrough] at stopped
    rcases bind_eq_error_iff.1 stopped with stopped | ⟨found, _, stopped⟩
    · exact ⟨part, List.mem_cons_self, value, stopped⟩
    · cases found with
      | error error => cases stopped
      | ok passed =>
        obtain ⟨later, among, stopped⟩ := ih stopped
        exact ⟨later, List.mem_cons_of_mem _ among, stopped⟩

/-- A step that stops has met an unknown reference, or one of the steps that it leads to has stopped for
the same reason, if those keep texts as they are. -/
theorem exists_stop_of_checkEffective
    (kept : ∀ next name parent accepted, check next (.string name) parent = .ok (.ok accepted) →
      accepted = .string name)
    (stopped : checkEffective links check schema value parent = .error reason) :
    (∃ reference, schema = .lazy reference ∧ links.get? reference = none ∧
      reason = .unresolved reference) ∨
    ∃ next, Leads links schema next ∧ ∃ value parent, check next value parent = .error reason := by
  -- Leaves never stop, containers do inside, and the other nodes where they hand the value on.
  cases schema with
  | scalar | custom | enumeration | literal | instanceOf => cases stopped
  | shape label mode guard fields =>
    simp only [checkEffective] at stopped
    split at stopped
    · cases stopped
    · obtain ⟨slot, among, field, declared, stopped⟩ :=
        exists_stop_of_visitAll (visitAll_of_checkShape_stopped stopped)
      exact .inr ⟨field, Opens.leads (.name among) declared, _, _, stopped⟩
    · cases stopped
  | list label guard element =>
    simp only [checkEffective] at stopped
    split at stopped
    · cases stopped
    · obtain ⟨slot, among, field, declared, stopped⟩ :=
        exists_stop_of_visitAll (bind_pure_eq_error_iff.1 stopped)
      exact .inr ⟨field, Opens.leads (.element among) declared, _, _, stopped⟩
    · cases stopped
  | tuple label guard schemas =>
    simp only [checkEffective] at stopped
    split at stopped
    · cases stopped
    · obtain ⟨slot, among, field, declared, stopped⟩ :=
        exists_stop_of_visitAll (bind_pure_eq_error_iff.1 stopped)
      exact .inr ⟨field, Opens.leads (.item among) declared, _, _, stopped⟩
    · cases stopped
  | dict label guard key item =>
    simp only [checkEffective] at stopped
    split at stopped
    · cases stopped
    · obtain ⟨entry, among, stopped⟩ := exists_error_of_mapM (bind_pure_eq_error_iff.1 stopped)
      rcases exists_stop_of_checkEntry (kept key entry.1 _) stopped with stopped | stopped
      · exact .inr ⟨key, .key, _, _, stopped⟩
      · exact .inr ⟨item, .entry, _, _, stopped⟩
    · cases stopped
  | union label alternatives =>
    rw [checkEffective] at stopped
    rcases bind_eq_error_iff.1 stopped with stopped | ⟨found, _, stopped⟩
    · obtain ⟨alternative, among, stopped⟩ := exists_stop_of_firstAccepting stopped
      exact .inr ⟨alternative, .alternative among, _, _, stopped⟩
    · cases found <;> cases stopped
  | intersection label parts =>
    rw [checkEffective] at stopped
    rcases bind_eq_error_iff.1 stopped with stopped | ⟨found, _, stopped⟩
    · obtain ⟨part, among, _, stopped⟩ := exists_stop_of_passThrough stopped
      exact .inr ⟨part, .part among, _, _, stopped⟩
    · cases found <;> cases stopped
  -- A reference stops by itself only where it leads nowhere.
  | lazy reference =>
    rw [checkEffective] at stopped
    cases known : links.get? reference with
    | none =>
      rw [known] at stopped
      exact .inl ⟨reference, rfl, known, (Except.error.inj stopped).symm⟩
    | some target =>
      rw [known] at stopped
      exact .inr ⟨target, .target known, _, _, stopped⟩
  | dynamic label select => exact .inr ⟨_, .selected value parent, _, _, stopped⟩

/-- A validation that stops has gone too deep, or has met a reference that is not known. -/
theorem stop_of_validate {depth : Nat}
    (stopped : validate links depth schema value parent = .error reason) :
    reason = .tooDeep ∨ ∃ reference, Reaches links schema (.lazy reference) ∧
      links.get? reference = none ∧ reason = .unresolved reference := by
  -- Each level is one step, and the reason is that of a level below.
  induction depth generalizing schema value parent with
  | zero => exact .inl (Except.error.inj stopped).symm
  | succ depth ih =>
    have kept : ∀ next name parent accepted,
        validate links depth next (.string name) parent = .ok (.ok accepted) →
          accepted = .string name :=
      fun next name parent accepted checked => (kept_validate checked).of_string
    rcases exists_stop_of_checkEffective kept stopped with ⟨reference, rfl, unknown, rfl⟩ | below
    · exact .inr ⟨reference, .refl, unknown, rfl⟩
    · obtain ⟨next, leads, _, _, stopped⟩ := below
      rcases ih stopped with deep | ⟨reference, reached, unknown, same⟩
      · exact .inl deep
      · exact .inr ⟨reference, .head leads reached, unknown, same⟩

end Schema

end Conform
