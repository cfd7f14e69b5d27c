import Conform.Proofs.Schema.Step

/-! Who is to blame for a refusal: unions, intersections and references hand on the failures of one
other question. -/

namespace Conform.Schema

/-- A question put to validation: whether a value, standing in a container if there is one, fits a
schema, with so many steps left to find out. -/
structure Question where
  depth : Nat
  schema : Schema
  value : Value
  parent : Option Value

namespace Question

/-- What validation answers. -/
def answer (links : Links) (question : Question) : Run Outcome :=
  validate links question.depth question.schema question.value question.parent

/-- The value that is looked at once the default of the node has been applied. -/
def effective (question : Question) : Value :=
  question.schema.effective question.value question.parent

/-- No answer is found without a step. -/
theorem depth_ne_zero {links : Links} {question : Question} {outcome : Outcome}
    (answered : question.answer links = .ok outcome) : question.depth ≠ 0 := by
  -- Without a step the run stops at once.
  intro steps
  unfold answer at answered
  rw [steps] at answered
  cases answered

/-- An answer has been found in one step from the answers to other questions. -/
theorem concludes {links : Links} {depth : Nat} {schema : Schema} {value effective : Value}
    {parent : Option Value} {outcome : Outcome}
    (applied : schema.effective value parent = effective)
    (answered : answer links ⟨depth + 1, schema, value, parent⟩ = .ok outcome) :
    Concludes links (validate links depth) schema effective parent outcome :=
  applied ▸ concludes_of_checkEffective answered

end Question

/-- Whether a node stands for another one, which it names or selects. -/
def IsReference : Schema → Prop
  | lazy _ | dynamic _ _ => True
  | _ => False

/-- The type that a node puts over the failures of other nodes: unions and intersections do so. -/
def combinedType? : Schema → Option String
  | union label _ | intersection label _ => some label.type
  | _ => none

/-- Whether a node reports failures of its own instead of those of another question. -/
structure IsPlain (schema : Schema) : Prop where
  noReference : ¬ schema.IsReference
  noCombination : schema.combinedType? = none

/-- A union offers at least one alternative, as every compiled one does. -/
def HasAlternatives : Schema → Prop
  | union _ alternatives => alternatives ≠ []
  | _ => True

/-- A question of a reference asks the same of the schema that the reference stands for. -/
inductive Refers (links : Links) : Question → Question → Prop where
  | target {depth reference target value parent} (known : links.get? reference = some target) :
      Refers links ⟨depth + 1, lazy reference, value, parent⟩ ⟨depth, target, value, parent⟩
  -- What is selected sees the value with the default in its place.
  | selected {depth label select value effective parent}
      (applied : (dynamic label select).effective value parent = effective) :
      Refers links ⟨depth + 1, dynamic label select, value, parent⟩
        ⟨depth, select effective parent, effective, parent⟩

/-- A question is refused because another one is: that of a union because its first alternative is,
that of an intersection because the first part is that refuses what those before it have made of the
value, and that of a reference because its target is. -/
inductive Blames (links : Links) : Question → Question → Prop where
  -- Of several refusals a union reports the first.
  | alternative {depth label first rest value effective parent}
      (applied : (union label (first :: rest)).effective value parent = effective) :
      Blames links ⟨depth + 1, union label (first :: rest), value, parent⟩
        ⟨depth, first, effective, parent⟩
  | part {depth label before part after value effective passed parent error}
      (applied : (intersection label (before ++ part :: after)).effective value parent = effective)
      (accepted : passThrough (validate links depth · · parent) before effective =
        .ok (.ok passed))
      (refused : validate links depth part passed parent = .ok (.error error)) :
      Blames links ⟨depth + 1, intersection label (before ++ part :: after), value, parent⟩
        ⟨depth, part, passed, parent⟩
  | refers {question next} (refers : Refers links question next) : Blames links question next

/-- A question blames others through any number of unions, intersections and references. -/
abbrev BlamesOnward (links : Links) : Question → Question → Prop :=
  Relation.ReflTransGen (Blames links)

/-- A question leads to another one through references alone. -/
abbrev RefersOnward (links : Links) : Question → Question → Prop :=
  Relation.ReflTransGen (Refers links)

variable {links : Links} {check : Checker} {schema : Schema} {value : Value}
  {parent : Option Value} {question next : Question} {error : ValidationError}

/-- What is asked about a reference is asked one step later about what the reference leads to. -/
theorem Refers.leads (refers : Refers links question next) :
    Leads links question.schema next.schema ∧ question.depth = next.depth + 1 := by
  -- Both kinds of references lead to a schema, and following one takes a step.
  cases refers with
  | target known => exact ⟨.target known, rfl⟩
  | selected applied => exact ⟨.selected _ _, rfl⟩

/-- The question to blame is asked one step later, about a node that the first one leads to. -/
theorem Blames.leads (blames : Blames links question next) :
    Leads links question.schema next.schema ∧ question.depth = next.depth + 1 := by
  -- What is asked next is about a direct part of the node or what it refers to.
  cases blames with
  | alternative => exact ⟨.alternative List.mem_cons_self, rfl⟩
  | part => exact ⟨.part (by simp), rfl⟩
  | refers refers => exact refers.leads

/-- A reference that gets an answer refers to another question. -/
theorem exists_refers (reference : question.schema.IsReference) {outcome : Outcome}
    (answered : question.answer links = .ok outcome) : ∃ next, Refers links question next := by
  obtain ⟨depth, schema, value, parent⟩ := question
  cases depth with
  | zero => cases answered
  | succ depth =>
    cases schema with
    | lazy label =>
      -- Without a target there would be no answer.
      cases Question.concludes rfl answered with
      | admitted leaf => exact leaf.elim
      | refused refuses => exact absurd trivial refuses
      | target known => exact ⟨_, .target known⟩
    | dynamic label select => exact ⟨_, .selected rfl⟩
    | _ => exact reference.elim

/-- A reference answers what the question answers that it refers to. -/
theorem answer_of_refers (refers : Refers links question next) {outcome : Outcome}
    (answered : question.answer links = .ok outcome) : next.answer links = .ok outcome := by
  cases refers with
  | target known =>
    cases Question.concludes rfl answered with
    | admitted leaf => exact leaf.elim
    | refused refuses => exact absurd trivial refuses
    | target found checked =>
      -- A reference has one target.
      rw [known, Option.some.injEq] at found
      exact found ▸ checked
  | selected applied =>
    cases Question.concludes applied answered with
    | admitted leaf => exact leaf.elim
    | refused refuses => exact absurd trivial refuses
    | selected checked => exact checked

/-- A refused union has been refused by all its alternatives, and reports under its own type what the
first of them does. -/
theorem Concludes.of_union {label : Label} {alternatives : List Schema}
    (concluded : Concludes links check (union label alternatives) value parent (.error error)) :
    ∃ errors, List.Forall₂ (fun alternative error =>
        check alternative value parent = .ok (.error error)) alternatives errors ∧
      error = (errors.head?.getD (mismatch (union label alternatives) value)).retype
        label.type := by
  -- A union has no predicate of its own that could refuse, so its alternatives have.
  cases concluded with
  | refused refuses => exact absurd trivial refuses
  | noAlternative each => exact ⟨_, each, rfl⟩

/-- A refused intersection has been refused by a part that sees what those in front of it have made of
the value. -/
theorem Concludes.of_intersection {label : Label} {parts : List Schema}
    (concluded : Concludes links check (intersection label parts) value parent (.error error)) :
    ∃ inner, passThrough (check · · parent) parts value = .ok (.error inner) ∧
      error = inner.retype label.type := by
  -- An intersection has no predicate of its own that could refuse, so a part has.
  cases concluded with
  | refused refuses => exact absurd trivial refuses
  | part checked => exact ⟨_, checked, rfl⟩

/-- The question to blame is refused with the failures of the first one. -/
theorem Blames.failures (blames : Blames links question next)
    (refused : question.answer links = .ok (.error error)) :
    ∃ inner, next.answer links = .ok (.error inner) ∧ inner.failures = error.failures := by
  cases blames with
  | alternative applied =>
    obtain ⟨errors, each, rfl⟩ := (Question.concludes applied refused).of_union
    -- All alternatives have refused, and the error of the first one is kept.
    cases each with
    | cons first others => exact ⟨_, first, rfl⟩
  | @part _ _ before part after _ _ passed _ _ applied accepted refusedPart =>
    -- The same parts in a row come to one error only.
    obtain ⟨inner, checked, rfl⟩ := (Question.concludes applied refused).of_intersection
    have ended := passThrough_eq_error_iff.2
      ⟨before, part, after, passed, rfl, accepted, refusedPart⟩
    rw [checked, Except.ok.injEq, Except.error.injEq] at ended
    subst ended
    exact ⟨inner, refusedPart, rfl⟩
  | refers refers => exact ⟨error, answer_of_refers refers refused, rfl⟩

/-- Whoever is to blame in the end is refused with the failures of the first question. -/
theorem failures_of_blamesOnward (blames : BlamesOnward links question next)
    (refused : question.answer links = .ok (.error error)) :
    ∃ inner, next.answer links = .ok (.error inner) ∧ inner.failures = error.failures := by
  -- The failures stay the same from one question to the next.
  induction blames with
  | refl => exact ⟨error, refused, rfl⟩
  | tail _ last ih =>
    obtain ⟨middle, refusedMiddle, same⟩ := ih
    obtain ⟨inner, refusedLast, sameToo⟩ := last.failures refusedMiddle
    exact ⟨inner, refusedLast, sameToo.trans same⟩

/-- A node that can refuse a value by itself is plain. -/
theorem isPlain_of_not_admits (refuses : ¬ schema.Admits value parent) : schema.IsPlain := by
  -- Unions, intersections and references leave the whole question to others.
  cases schema with
  | union | intersection | lazy | dynamic => exact absurd trivial refuses
  | scalar | custom | shape | list | tuple | dict | enumeration | literal | instanceOf =>
    exact ⟨id, rfl⟩

/-- A question that is refused blames another one unless its node is plain. -/
theorem isPlain_or_blames (alternatives : question.schema.HasAlternatives)
    (refused : question.answer links = .ok (.error error)) :
    question.schema.IsPlain ∨ ∃ next, Blames links question next := by
  obtain ⟨depth, schema, value, parent⟩ := question
  cases depth with
  | zero => cases refused
  | succ depth =>
    generalize applied : schema.effective value parent = effective
    cases Question.concludes applied refused with
    | refused refuses => exact .inl (isPlain_of_not_admits refuses)
    | shape | list | tuple | dict => exact .inl ⟨id, rfl⟩
    | noAlternative each =>
      -- A union without alternatives would report the value itself, under its own type.
      cases each with
      | nil => exact absurd rfl alternatives
      | cons => exact .inr ⟨_, .alternative applied⟩
    | part checked =>
      obtain ⟨before, part, after, passed, rfl, accepted, refusedPart⟩ :=
        passThrough_eq_error_iff.1 checked
      exact .inr ⟨_, .part applied accepted refusedPart⟩
    | target known => exact .inr ⟨_, .refers (.target known)⟩
    | selected => exact .inr ⟨_, .refers (.selected applied)⟩

/-- Where unions offer something, a plain node is to blame in the end. -/
theorem exists_blamed_plain (compiled : Throughout links HasAlternatives question.schema)
    (refused : question.answer links = .ok (.error error)) :
    ∃ blamed, BlamesOnward links question blamed ∧ blamed.schema.IsPlain := by
  -- Whoever is blamed has fewer steps left, so blaming comes to an end.
  induction steps : question.depth generalizing question error with
  | zero => exact absurd steps (Question.depth_ne_zero refused)
  | succ depth ih =>
    rcases isPlain_or_blames compiled.here refused with plain | ⟨next, blames⟩
    · exact ⟨question, .refl, plain⟩
    · -- The next question is refused as well, so it is blameless or blames in turn.
      obtain ⟨leads, later⟩ := blames.leads
      obtain ⟨inner, refusedNext, _⟩ := blames.failures refused
      obtain ⟨blamed, onward, plain⟩ :=
        ih (compiled.below leads) refusedNext (Nat.succ.inj (later.symm.trans steps))
      exact ⟨blamed, .head blames onward, plain⟩

/-- An error of a node that is no reference stands under the combined type of the node, if it has
one. -/
theorem Concludes.override (concluded : Concludes links check schema value parent (.error error))
    (noReference : ¬ schema.IsReference) : error.override = schema.combinedType? := by
  -- Plain nodes report under no type of their own, and containers drop those of what they hold.
  cases concluded with
  | refused refuses => exact (isPlain_of_not_admits refuses).noCombination.symm
  | shape _ checked =>
    obtain ⟨_, _, dropped, _⟩ := visitAll_eq_error (visitAll_of_checkShape checked)
    exact dropped
  | list _ checked | tuple _ checked =>
    obtain ⟨_, _, dropped, _⟩ := visitAll_eq_error (visitAll_of_checkItems checked)
    exact dropped
  | dict _ checked =>
    obtain ⟨_, _, dropped, _⟩ := checkDict_eq_error checked
    exact dropped
  | noAlternative | part => rfl
  | target | selected => exact absurd trivial noReference

/-- The type over an error is that of the union or intersection that the question comes to through
references, if it comes to one. -/
theorem exists_root (refused : question.answer links = .ok (.error error)) :
    ∃ root, RefersOnward links question root ∧ ¬ root.schema.IsReference ∧
      error.override = root.schema.combinedType? := by
  -- A reference is followed with fewer steps left, and hands the error on as it is.
  induction steps : question.depth generalizing question with
  | zero => exact absurd steps (Question.depth_ne_zero refused)
  | succ depth ih =>
    by_cases reference : question.schema.IsReference
    · obtain ⟨next, refers⟩ := exists_refers reference refused
      obtain ⟨root, onward, noReference, same⟩ := ih (answer_of_refers refers refused)
        (Nat.succ.inj (refers.leads.2.symm.trans steps))
      exact ⟨root, .head refers onward, noReference, same⟩
    · -- Whatever is no reference puts its own type over the error, or none.
      obtain ⟨_, schema, value, parent⟩ := question
      obtain rfl := steps
      exact ⟨_, .refl, reference, (Question.concludes rfl refused).override reference⟩

end Conform.Schema
