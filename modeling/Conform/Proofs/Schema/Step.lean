import Conform.Proofs.Schema.Arrays
import Conform.Proofs.Schema.Dictionaries
import Conform.Proofs.Schema.Reach
import Conform.Proofs.Schema.Shapes

/-! Everything that one step of validation can come to, so that no later proof opens the step. -/

namespace Conform.Schema

/-- What a node asks of a value by itself, before it hands the value or a part of it on. -/
def Admits : Schema → Value → Option Value → Prop
  | scalar _ predicate, value, parent => (predicate value parent).isPass = true
  | custom _ predicate, value, parent => (predicate value parent).isPass = true
  | shape _ _ guard _, value, _ =>
    (guard value none).isPass = true ∧ ∃ members, value = .object members
  | list _ guard _, value, _ => (guard value none).isPass = true ∧ ∃ items, value = .array items
  | tuple _ guard _, value, _ => (guard value none).isPass = true ∧ ∃ items, value = .array items
  | dict _ guard _ _, value, _ =>
    (guard value none).isPass = true ∧ ∃ members, value = .object members
  | enumeration _ values, value, _ => values.any (Value.includes · value) = true
  | literal _ expected, value, _ => expected.strictlyEquals value = true
  | instanceOf _ payload, value, _ => ∃ owned, value = .host owned ∧ owned.payload = payload
  -- The remaining nodes leave the whole question to others.
  | union _ _, _, _ => True
  | intersection _ _, _, _ => True
  | lazy _, _, _ => True
  | dynamic _ _, _, _ => True

/-- Whether a node judges values alone, without handing them on. -/
def IsLeaf : Schema → Prop
  | scalar _ _ | custom _ _ | enumeration _ _ | literal _ _ | instanceOf _ _ => True
  | _ => False

/-- The container that a node tells its predicate of; guards are told of none. -/
def asks : Schema → Option Value → Option Value
  | scalar _ _, parent | custom _ _, parent => parent
  | _, _ => none

/-- Whether a node reports its own type even where its predicate names another. -/
def fixesType : Schema → Bool
  | custom _ _ => false
  | _ => true

/-- A failure that a node reports for a value as a whole: plainly, or as its predicate words it. -/
def OwnFailure (schema : Schema) (value : Value) (parent : Option Value) (failure : Failure) : Prop :=
  failure = .ofValue value schema.label.type ∨
  ∃ predicate ∈ schema.predicates, (predicate value (schema.asks parent)).failure? value
    schema.label.type schema.fixesType = some failure

/-- How the check of a value against a node comes to an end, in terms of the checks that it leads to.
The value is the effective one. -/
inductive Concludes (links : Links) (check : Checker) :
    Schema → Value → Option Value → Outcome → Prop where
  | admitted {schema value parent} (leaf : IsLeaf schema) (admits : schema.Admits value parent) :
      Concludes links check schema value parent (.ok value)
  -- A container that its guard turns away is refused in the same way as a leaf.
  | refused {schema value parent failure} (refuses : ¬ schema.Admits value parent)
      (own : schema.OwnFailure value parent failure) :
      Concludes links check schema value parent (.error (.single failure))
  | shape {label mode guard fields members parent outcome}
      (admits : (guard (.object members) none).isPass = true)
      (checked : checkShape check mode label.defaults fields members = .ok outcome) :
      Concludes links check (.shape label mode guard fields) (.object members) parent outcome
  | list {label guard element items parent outcome}
      (admits : (guard (.array items) none).isPass = true)
      (checked : checkItems check items (listSlots element items) = .ok outcome) :
      Concludes links check (.list label guard element) (.array items) parent outcome
  | tuple {label guard schemas items parent outcome}
      (admits : (guard (.array items) none).isPass = true)
      (checked : checkItems check items (tupleSlots schemas items) = .ok outcome) :
      Concludes links check (.tuple label guard schemas) (.array items) parent outcome
  | dict {label guard key item members parent outcome}
      (admits : (guard (.object members) none).isPass = true)
      (checked : checkDict check key item members = .ok outcome) :
      Concludes links check (.dict label guard key item) (.object members) parent outcome
  | alternative {label before alternative after value parent accepted}
      (earlier : ∀ schema ∈ before, ∃ error, check schema value parent = .ok (.error error))
      (checked : check alternative value parent = .ok (.ok accepted)) :
      Concludes links check (.union label (before ++ alternative :: after)) value parent
        (.ok accepted)
  -- A union of nothing has no first error, and then reports the value itself.
  | noAlternative {label alternatives errors value parent}
      (each : List.Forall₂ (fun schema error => check schema value parent = .ok (.error error))
        alternatives errors) :
      Concludes links check (.union label alternatives) value parent
        (.error ((errors.head?.getD (mismatch (.union label alternatives) value)).retype
          label.type))
  | parts {label parts value parent accepted}
      (checked : passThrough (check · · parent) parts value = .ok (.ok accepted)) :
      Concludes links check (.intersection label parts) value parent (.ok accepted)
  | part {label parts value parent error}
      (checked : passThrough (check · · parent) parts value = .ok (.error error)) :
      Concludes links check (.intersection label parts) value parent
        (.error (error.retype label.type))
  | target {reference target value parent outcome} (known : links.get? reference = some target)
      (checked : check target value parent = .ok outcome) :
      Concludes links check (.lazy reference) value parent outcome
  | selected {label select value parent outcome}
      (checked : check (select value parent) value parent = .ok outcome) :
      Concludes links check (.dynamic label select) value parent outcome

/-- A passing verdict accepts the value as it is. -/
theorem judge_of_isPass {verdict : Verdict} (passes : verdict.isPass = true) (value : Value)
    (expected : String) (fixed : Bool) : judge verdict value expected fixed = .ok value := by
  -- Only acceptance words no failure.
  cases verdict <;> simp [Verdict.isPass] at passes
  rfl

/-- Any other verdict words a failure. -/
theorem exists_failure_of_not_isPass {verdict : Verdict} (fails : verdict.isPass ≠ true)
    (value : Value) (expected : String) (fixed : Bool) :
    ∃ failure, verdict.failure? value expected fixed = some failure ∧
      judge verdict value expected fixed = .error (.single failure) := by
  -- Each of the other verdicts fills in what it does not say.
  cases verdict with
  | pass => simp [Verdict.isPass] at fails
  | fail => exact ⟨_, rfl, rfl⟩
  | reason text => exact ⟨_, rfl, rfl⟩
  | detailed patch => exact ⟨_, rfl, rfl⟩

variable {links : Links} {check : Checker} {schema : Schema} {value accepted : Value}
  {parent : Option Value} {outcome : Outcome}

/-- A node that asks a predicate alone concludes with what it says. -/
theorem Concludes.of_judge {predicate : Predicate} (leaf : IsLeaf schema)
    (mine : predicate ∈ schema.predicates)
    (admitsIff : schema.Admits value parent ↔
      (predicate value (schema.asks parent)).isPass = true)
    (judged : judge (predicate value (schema.asks parent)) value schema.label.type
      schema.fixesType = outcome) :
    Concludes links check schema value parent outcome := by
  -- Either the verdict passes, or it words a failure.
  by_cases passes : (predicate value (schema.asks parent)).isPass = true
  · rw [judge_of_isPass passes] at judged
    subst judged
    exact .admitted leaf (admitsIff.2 passes)
  · obtain ⟨failure, worded, refused⟩ :=
      exists_failure_of_not_isPass passes value schema.label.type schema.fixesType
    rw [refused] at judged
    subst judged
    exact .refused (fun admits => passes (admitsIff.1 admits))
      (.inr ⟨predicate, mine, worded⟩)

/-- A container that its guard keeps out is refused in the words of the guard. -/
theorem Concludes.of_guard {guard : Predicate} {failure : ValidationError}
    (mine : guard ∈ schema.predicates)
    (guarded : schema.asks parent = none ∧ schema.fixesType = true)
    (needed : schema.Admits value parent → (guard value none).isPass = true)
    (judged : judge (guard value none) value schema.label.type true = .error failure) :
    Concludes links check schema value parent (.error failure) := by
  -- A guard that passed would not have refused.
  have fails : (guard value none).isPass ≠ true := by
    intro passes
    rw [judge_of_isPass passes] at judged
    cases judged
  obtain ⟨own, worded, refused⟩ :=
    exists_failure_of_not_isPass fails value schema.label.type true
  rw [refused] at judged
  cases judged
  refine .refused (fun admits => fails (needed admits)) (.inr ⟨guard, mine, ?_⟩)
  rw [guarded.1, guarded.2]
  exact worded

/-- A guard that accepts has passed the value. -/
theorem isPass_of_judge {verdict : Verdict} {expected : String} {fixed : Bool} {accepted : Value}
    (judged : judge verdict value expected fixed = .ok accepted) : verdict.isPass = true := by
  -- Otherwise a failure would have been worded.
  by_contra fails
  obtain ⟨_, _, refused⟩ := exists_failure_of_not_isPass fails value expected fixed
  rw [refused] at judged
  cases judged

/-- A node that only objects may enter concludes with what it makes of their members, if its guard
lets them in. -/
theorem Concludes.of_guarded_object {guard : Predicate} {inside : Members Value → Run Outcome}
    (checked : (match judge (guard value none) value schema.label.type true, value with
      | .error error, _ => .ok (.error error)
      | .ok _, .object members => inside members
      | .ok _, _ => .ok (.error (schema.mismatch value)) : Run Outcome) = .ok outcome)
    (mine : guard ∈ schema.predicates)
    (guarded : schema.asks parent = none ∧ schema.fixesType = true)
    (admitsIff : schema.Admits value parent ↔
      (guard value none).isPass = true ∧ ∃ members, value = .object members)
    (enters : ∀ members, value = .object members → (guard value none).isPass = true →
      inside members = .ok outcome → Concludes links check schema value parent outcome) :
    Concludes links check schema value parent outcome := by
  -- The guard refuses, or it lets an object in, or it lets something else in.
  split at checked
  · rename_i judged
    cases checked
    exact .of_guard mine guarded (fun admits => (admitsIff.1 admits).1) judged
  · rename_i judged
    exact enters _ rfl (isPass_of_judge judged) checked
  · rename_i foreign _
    cases checked
    refine .refused (fun admits => ?_) (.inl rfl)
    obtain ⟨_, members, same⟩ := admitsIff.1 admits
    exact foreign members same

/-- A node that only arrays may enter concludes with what it makes of their elements, if its guard
lets them in. -/
theorem Concludes.of_guarded_array {guard : Predicate} {inside : List Value → Run Outcome}
    (checked : (match judge (guard value none) value schema.label.type true, value with
      | .error error, _ => .ok (.error error)
      | .ok _, .array items => inside items
      | .ok _, _ => .ok (.error (schema.mismatch value)) : Run Outcome) = .ok outcome)
    (mine : guard ∈ schema.predicates)
    (guarded : schema.asks parent = none ∧ schema.fixesType = true)
    (admitsIff : schema.Admits value parent ↔
      (guard value none).isPass = true ∧ ∃ items, value = .array items)
    (enters : ∀ items, value = .array items → (guard value none).isPass = true →
      inside items = .ok outcome → Concludes links check schema value parent outcome) :
    Concludes links check schema value parent outcome := by
  -- The guard refuses, or it lets an array in, or it lets something else in.
  split at checked
  · rename_i judged
    cases checked
    exact .of_guard mine guarded (fun admits => (admitsIff.1 admits).1) judged
  · rename_i judged
    exact enters _ rfl (isPass_of_judge judged) checked
  · rename_i foreign _
    cases checked
    refine .refused (fun admits => ?_) (.inl rfl)
    obtain ⟨_, items, same⟩ := admitsIff.1 admits
    exact foreign items same

/-- A step of validation that returns has concluded in one of these ways. -/
theorem concludes_of_checkEffective
    (checked : checkEffective links check schema value parent = .ok outcome) :
    Concludes links check schema value parent outcome := by
  -- One case for each kind of node, with the branches that its check has.
  cases schema with
  | scalar label predicate =>
    exact .of_judge trivial (by simp [predicates]) Iff.rfl (Except.ok.inj checked)
  | custom label predicate =>
    exact .of_judge trivial (by simp [predicates]) Iff.rfl (Except.ok.inj checked)
  | shape label mode guard fields =>
    refine .of_guarded_object checked (by simp [predicates]) ⟨rfl, rfl⟩ Iff.rfl ?_
    intro members same passes checkedInside
    subst same
    exact .shape passes checkedInside
  | list label guard element =>
    refine .of_guarded_array checked (by simp [predicates]) ⟨rfl, rfl⟩ Iff.rfl ?_
    intro items same passes checkedInside
    subst same
    exact .list passes checkedInside
  | tuple label guard schemas =>
    refine .of_guarded_array checked (by simp [predicates]) ⟨rfl, rfl⟩ Iff.rfl ?_
    intro items same passes checkedInside
    subst same
    exact .tuple passes checkedInside
  | dict label guard key item =>
    refine .of_guarded_object checked (by simp [predicates]) ⟨rfl, rfl⟩ Iff.rfl ?_
    intro members same passes checkedInside
    subst same
    exact .dict passes checkedInside
  -- The value is among those listed, or it is refused as one that is not.
  | enumeration label values =>
    simp only [checkEffective, Except.ok.injEq] at checked
    subst checked
    split
    · rename_i included
      exact .admitted trivial included
    · rename_i missing
      exact .refused missing (.inl rfl)
  | union label alternatives =>
    simp only [checkEffective, bind_eq_ok_iff] at checked
    obtain ⟨tried, run, returned⟩ := checked
    -- Some alternative accepts, or all of them refuse.
    cases tried with
    | ok accepted =>
      cases returned
      obtain ⟨before, alternative, after, rfl, earlier, accepting⟩ := firstAccepting_eq_ok run
      exact .alternative earlier accepting
    | error kept =>
      cases returned
      obtain ⟨errors, each, rfl⟩ := firstAccepting_eq_error run
      exact .noAlternative each
  | intersection label parts =>
    simp only [checkEffective, bind_eq_ok_iff] at checked
    obtain ⟨passed, run, returned⟩ := checked
    -- All parts accept in a row, or one of them ends the row.
    cases passed with
    | ok accepted =>
      cases returned
      exact .parts run
    | error error =>
      cases returned
      exact .part run
  | literal label expected =>
    simp only [checkEffective, Except.ok.injEq] at checked
    subst checked
    split
    · rename_i same
      exact .admitted trivial same
    · rename_i differs
      exact .refused differs (.inl rfl)
  -- Only a host object is accepted, and only one that carries the right type.
  | instanceOf label payload =>
    simp only [checkEffective, Except.ok.injEq] at checked
    subst checked
    split
    · rename_i owned
      split
      · rename_i same
        exact .admitted trivial ⟨owned, rfl, same⟩
      · rename_i differs
        refine .refused ?_ (.inl rfl)
        intro admits
        obtain ⟨other, same, carries⟩ := admits
        cases same
        exact differs carries
    · rename_i foreign
      refine .refused ?_ (.inl rfl)
      intro admits
      obtain ⟨owned, rfl, _⟩ := admits
      exact foreign owned rfl
  | lazy reference =>
    simp only [checkEffective] at checked
    split at checked
    · rename_i known
      exact .target known checked
    · cases checked
  | dynamic label select => exact .selected checked

/-- A step that can conclude with a value accepts that value. -/
theorem checkEffective_of_concludes
    (concluded : Concludes links check schema value parent (.ok accepted)) :
    checkEffective links check schema value parent = .ok (.ok accepted) := by
  cases concluded with
  | admitted leaf admits =>
    -- What the node asks by itself is what its check tests.
    cases schema with
    | scalar | custom => simp only [checkEffective, judge_of_isPass admits]
    | enumeration | literal => exact congrArg Except.ok (if_pos admits)
    | instanceOf label payload =>
      obtain ⟨owned, rfl, same⟩ := admits
      simp only [checkEffective, if_pos same]
    | shape | list | tuple | dict | union | intersection | lazy | dynamic => exact leaf.elim
  | shape admits checked => simp only [checkEffective, judge_of_isPass admits, checked]
  | list admits checked => simp only [checkEffective, judge_of_isPass admits, checked]
  | tuple admits checked => simp only [checkEffective, judge_of_isPass admits, checked]
  | dict admits checked => simp only [checkEffective, judge_of_isPass admits, checked]
  | alternative earlier checked =>
    simp only [checkEffective, bind_eq_ok_iff]
    exact ⟨.ok accepted, firstAccepting_of_accepting earlier checked none, rfl⟩
  | parts checked =>
    simp only [checkEffective, bind_eq_ok_iff]
    exact ⟨.ok accepted, checked, rfl⟩
  | target known checked => simp only [checkEffective, known, checked]
  | selected checked => exact checked

/-- Without a default the effective value is the value itself. -/
theorem effective_of_defaultFree (defaultFree : schema.defaults = none) (value : Value)
    (parent : Option Value) : schema.effective value parent = value := by
  rw [effective, defaultFree]

/-- A shape that lets in the object that it comes to checks its members. -/
theorem validate_shape {label : Label} {mode : ShapeMode} {guard : Predicate}
    {fields : Members Schema} {members : Members Value} {depth : Nat}
    (passes : (guard (.object members) none).isPass = true)
    (effective : (shape label mode guard fields).effective value parent = .object members) :
    validate links (depth + 1) (.shape label mode guard fields) value parent =
      checkShape (validate links depth) mode label.defaults fields members := by
  simp only [validate, effective, checkEffective, judge_of_isPass passes]

/-- Whether a node lays its default under values instead of putting it in their place. -/
def Merges : Schema → Prop
  | shape _ mode _ _ => mode = .extensible
  -- A dictionary lays the whole default under, since its names are free.
  | dict _ _ _ _ => True
  | _ => False

/-- A node that merges lays its default under the value. -/
theorem effective_of_merges {defaults : Defaults} (merges : schema.Merges)
    (given : schema.defaults = some defaults) (value : Value) (parent : Option Value) :
    schema.effective value parent = defaults.mergeUnder value := by
  -- Only dictionaries and shapes with free names are left to look at.
  rw [effective, given]
  cases schema with
  | shape label mode guard fields =>
    obtain rfl : mode = .extensible := merges
    rfl
  | dict => rfl
  | _ => exact merges.elim

/-- Elsewhere the default stands in for what is undefined. -/
theorem effective_of_not_merges {defaults : Defaults} (replaces : ¬ schema.Merges)
    (given : schema.defaults = some defaults) (value : Value) (parent : Option Value) :
    schema.effective value parent =
      if value.isUndefined then defaults.resolve parent else value := by
  -- The two sorts of node that merge are left out.
  rw [effective, given]
  cases schema with
  | shape label mode guard fields =>
    cases mode with
    | extensible => exact absurd rfl replaces
    | exact | sparse => rfl
  | dict => exact absurd trivial replaces
  | _ => rfl

end Conform.Schema
