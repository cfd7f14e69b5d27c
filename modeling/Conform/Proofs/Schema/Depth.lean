import Conform.Proofs.Schema.Visit

/-! An outcome does not depend on how deep validation may go, once it is deep enough. -/

namespace Conform

/-- A checker extends another one if it comes to every outcome that the other one comes to. -/
def Extends (check larger : Checker) : Prop :=
  ∀ schema value parent outcome, check schema value parent = .ok outcome →
    larger schema value parent = .ok outcome

variable {check larger : Checker}

/-- The visit of a slot comes to the same finding under a checker that extends the given one. -/
theorem Extends.visit (extended : Extends check larger) {container : Value} {slot : Slot}
    {finding : Except (List Failure) (Slot × Value)}
    (visited : slot.visit check container = .ok finding) :
    slot.visit larger container = .ok finding := by
  unfold Slot.visit at visited ⊢
  -- Where nothing is declared, no check takes place.
  cases declared : slot.declared with
  | none => simpa [declared] using visited
  | some schema =>
    simp only [declared, bind_eq_ok_iff] at visited ⊢
    obtain ⟨outcome, checked, returned⟩ := visited
    exact ⟨outcome, extended _ _ _ _ checked, returned⟩

/-- The visit of all slots comes to the same under a checker that extends the given one. -/
theorem Extends.visitAll (extended : Extends check larger) {container : Value} {slots : List Slot}
    {outcome : Except ValidationError (List (Slot × Value))}
    (visited : Conform.visitAll check container slots = .ok outcome) :
    Conform.visitAll larger container slots = .ok outcome := by
  -- Each visit came to an end, and comes to the same under the larger checker.
  unfold Conform.visitAll at visited ⊢
  rw [bind_pure_eq_ok_iff] at visited ⊢
  obtain ⟨findings, ran, gathered⟩ := visited
  exact ⟨findings, mapM_of_mapM (fun _ _ => extended.visit) ran, gathered⟩

namespace Schema

variable {outcome : Outcome}

/-- The check of a shape comes to the same outcome under a checker that extends the given one. -/
theorem checkShape_of_extends (extended : Extends check larger) {mode : ShapeMode}
    {defaults : Option Defaults} {fields : Members Schema} {members : Members Value}
    (checked : checkShape check mode defaults fields members = .ok outcome) :
    checkShape larger mode defaults fields members = .ok outcome := by
  -- Only the visit of the slots asks the checker.
  unfold checkShape at checked ⊢
  rw [bind_eq_ok_iff] at checked ⊢
  obtain ⟨found, visited, returned⟩ := checked
  exact ⟨found, extended.visitAll visited, returned⟩

/-- The check of an array comes to the same outcome under a checker that extends the given one. -/
theorem checkItems_of_extends (extended : Extends check larger) {items : List Value}
    {slots : List Slot} (checked : checkItems check items slots = .ok outcome) :
    checkItems larger items slots = .ok outcome := by
  -- Only the visit of the slots asks the checker.
  unfold checkItems at checked ⊢
  rw [bind_pure_eq_ok_iff] at checked ⊢
  obtain ⟨found, visited, returned⟩ := checked
  exact ⟨found, extended.visitAll visited, returned⟩

/-- The check of an entry comes to the same finding under a checker that extends the given one. -/
theorem checkEntry_of_extends (extended : Extends check larger) {key item : Schema}
    {container : Value} {entry : String × Value}
    {finding : Except (List Failure) (String × Value)}
    (checked : checkEntry check key item container entry = .ok finding) :
    checkEntry larger key item container entry = .ok finding := by
  unfold checkEntry at checked ⊢
  rw [bind_eq_ok_iff] at checked ⊢
  obtain ⟨outcome, checkedKey, continued⟩ := checked
  refine ⟨outcome, extended _ _ _ _ checkedKey, ?_⟩
  -- Only an entry whose key has been accepted goes on to its value.
  cases outcome with
  | error error => exact continued
  | ok accepted =>
    simp only [bind_eq_ok_iff] at continued ⊢
    obtain ⟨name, read, outcome, checkedItem, returned⟩ := continued
    exact ⟨name, read, outcome, extended _ _ _ _ checkedItem, returned⟩

/-- The check of a dictionary comes to the same outcome under a checker that extends the given
one. -/
theorem checkDict_of_extends (extended : Extends check larger) {key item : Schema}
    {members : Members Value} (checked : checkDict check key item members = .ok outcome) :
    checkDict larger key item members = .ok outcome := by
  -- Only the checks of the entries ask the checker.
  unfold checkDict at checked ⊢
  rw [bind_pure_eq_ok_iff] at checked ⊢
  obtain ⟨findings, ran, gathered⟩ := checked
  exact ⟨findings, mapM_of_mapM (fun _ _ => checkEntry_of_extends extended) ran, gathered⟩

/-- Alternatives come to the same under a check that comes to the same wherever the other one does. -/
theorem firstAccepting_of_extends {check larger : Schema → Run Outcome}
    (extended : ∀ schema outcome, check schema = .ok outcome → larger schema = .ok outcome)
    {alternatives : List Schema} {first : Option ValidationError}
    {outcome : Except (Option ValidationError) Value}
    (ran : firstAccepting check alternatives first = .ok outcome) :
    firstAccepting larger alternatives first = .ok outcome := by
  induction alternatives generalizing first with
  | nil => exact ran
  | cons alternative rest ih =>
    rw [firstAccepting, bind_eq_ok_iff] at ran ⊢
    obtain ⟨found, checked, continued⟩ := ran
    refine ⟨found, extended _ _ checked, ?_⟩
    -- After a refusal the others are asked.
    cases found with
    | ok value => exact continued
    | error error => exact ih continued

/-- Parts in a row come to the same under a check that comes to the same wherever the other one
does. -/
theorem passThrough_of_extends {check larger : Schema → Value → Run Outcome}
    (extended : ∀ schema value outcome, check schema value = .ok outcome →
      larger schema value = .ok outcome)
    {parts : List Schema} {value : Value} (ran : passThrough check parts value = .ok outcome) :
    passThrough larger parts value = .ok outcome := by
  induction parts generalizing value with
  | nil => exact ran
  | cons part rest ih =>
    rw [passThrough, bind_eq_ok_iff] at ran ⊢
    obtain ⟨found, checked, continued⟩ := ran
    refine ⟨found, extended _ _ _ checked, ?_⟩
    -- What has been accepted goes on to the other parts.
    cases found with
    | ok passed => exact ih continued
    | error error => exact continued

variable {links : Links}

/-- A step comes to the same outcome under a checker that extends the given one. -/
theorem checkEffective_of_extends (extended : Extends check larger) {schema : Schema}
    {value : Value} {parent : Option Value}
    (checked : checkEffective links check schema value parent = .ok outcome) :
    checkEffective links larger schema value parent = .ok outcome := by
  -- Leaves and guards ask no checker, and the loops of the others have been dealt with above.
  cases schema with
  | scalar | custom | enumeration | literal | instanceOf => exact checked
  | shape label mode guard fields =>
    simp only [checkEffective] at checked ⊢
    split at checked
    · exact checked
    · exact checkShape_of_extends extended checked
    · exact checked
  | list label guard element | tuple label guard items =>
    simp only [checkEffective] at checked ⊢
    split at checked
    · exact checked
    · exact checkItems_of_extends extended checked
    · exact checked
  | dict label guard key item =>
    simp only [checkEffective] at checked ⊢
    split at checked
    · exact checked
    · exact checkDict_of_extends extended checked
    · exact checked
  | union label alternatives =>
    simp only [checkEffective, bind_eq_ok_iff] at checked ⊢
    obtain ⟨found, ran, returned⟩ := checked
    exact ⟨found, firstAccepting_of_extends (fun _ _ => extended _ _ _ _) ran, returned⟩
  | intersection label parts =>
    simp only [checkEffective, bind_eq_ok_iff] at checked ⊢
    obtain ⟨found, ran, returned⟩ := checked
    exact ⟨found, passThrough_of_extends (fun _ _ _ => extended _ _ _ _) ran, returned⟩
  -- A reference that leads nowhere stops under both.
  | lazy reference =>
    simp only [checkEffective] at checked ⊢
    split at checked
    · exact extended _ _ _ _ checked
    · exact checked
  | dynamic label select => exact extended _ _ _ _ checked

/-- A validation that may go one step deeper comes to the same outcome. -/
theorem extends_validate_succ (links : Links) (depth : Nat) :
    Extends (validate links depth) (validate links (depth + 1)) := by
  -- Each step extends to the next depth because the steps below it do.
  induction depth with
  | zero =>
    intro schema value parent outcome checked
    cases checked
  | succ depth ih =>
    intro schema value parent outcome checked
    exact checkEffective_of_extends ih checked

/-- A validation that may go deeper comes to the same outcome. -/
theorem validate_of_le {depth deeper : Nat} (more : depth ≤ deeper) :
    Extends (validate links depth) (validate links deeper) := by
  -- Each step deeper extends the one before it.
  induction more with
  | refl => exact fun _ _ _ _ checked => checked
  | step _ ih =>
    intro schema value parent outcome checked
    exact extends_validate_succ links _ schema value parent outcome
      (ih schema value parent outcome checked)

end Schema

end Conform
