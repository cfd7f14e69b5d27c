import Conform.Proofs.Schema.Blame
import Conform.Proofs.Schema.Kept
import Conform.Proofs.Schema.Opening
import Conform.Schema.Factory

/-! Where failures come from: each keeps the type under which a single plain node has reported it, and
only the first may stand under the type of a union or an intersection at the root. -/

namespace Conform

namespace ValidationError

/-- A settled error stands under no other type than its first failure. -/
theorem expected_settle (error : ValidationError) :
    error.settle.expected = error.settle.first.expected :=
  rfl

/-- A settled error is worded like its first failure. -/
theorem message_settle (error : ValidationError) :
    error.settle.message = error.settle.first.message :=
  rfl

/-- Every line of the report of a settled error ends in the wording of its failure. -/
theorem report_settle (error : ValidationError) :
    List.Forall₂ (fun failure line => ∃ place, line = place ++ failure.message)
      error.settle.failures error.settle.report := by
  -- A line says where, and then what.
  have ends : ∀ (failure : Failure) (message : String),
      ∃ place, report.line failure message = place ++ message := fun _ _ => ⟨_, rfl⟩
  refine .cons ?_ ?_
  · -- The first line carries the wording of the error, which is that of its first failure.
    rw [message_settle]
    exact ends _ _
  · exact List.forall₂_map_right_iff.2 (List.forall₂_same.2 fun failure _ => ends failure _)

end ValidationError

namespace Schema

/-- Why a plain node reports a failure, and under which type: its own, one that its predicate has put
down instead, or `undefined` where it declares nothing for what it holds. -/
inductive Words (question : Question) : Failure → Prop where
  | plainly {failure}
      (own : question.schema.OwnFailure question.effective question.parent failure)
      (same : failure.expected = question.schema.label.type) : Words question failure
  | patched {failure predicate patch}
      (own : question.schema.OwnFailure question.effective question.parent failure)
      (mine : predicate ∈ question.schema.predicates)
      (said : predicate question.effective (question.schema.asks question.parent) =
        .detailed patch)
      (same : patch.expected = some failure.expected) : Words question failure
  -- No schema speaks here, so the node answers for what it does not declare.
  | undeclared {slot} (opens : Opens question.schema question.effective slot)
      (unknown : slot.declared = none) :
      Words question ⟨question.effective, [slot.segment], slot.value, none, "undefined"⟩

/-- A plain node reports a failure of its own among those of its answer. -/
structure Reports (links : Links) (origin : Question) (failure : Failure) : Prop where
  plain : origin.schema.IsPlain
  answered : ∃ error, origin.answer links = .ok (.error error) ∧ failure ∈ error.failures
  words : Words origin failure

/-- A failure of one question is, seen from further inside, a failure of another one that it blames or
asks about a place of its value. -/
inductive Traces (links : Links) : Question → Failure → Question → Failure → Prop where
  | here {question failure} : Traces links question failure question failure
  | blamed {question next failure origin reported} (blames : Blames links question next)
      (onward : Traces links next failure origin reported) :
      Traces links question failure origin reported
  -- A step inside nests the failure, while what it reports stays the same.
  | inside {depth schema value effective parent slot field failure origin reported}
      (applied : schema.effective value parent = effective) (opens : Opens schema effective slot)
      (declared : slot.declared = some field)
      (onward : Traces links ⟨depth, field, slot.value, some effective⟩ failure origin reported) :
      Traces links ⟨depth + 1, schema, value, parent⟩ (failure.nest slot.segment effective) origin
        reported

/-- A failure keeps the type under which a plain node has reported it. -/
def KeepsType (links : Links) (question : Question) (failure : Failure) : Prop :=
  ∃ origin reported, Traces links question failure origin reported ∧
    Reports links origin reported ∧ failure.expected = reported.expected

variable {links : Links} {schema field : Schema} {value effective : Value} {parent : Option Value}
  {question next : Question} {failure : Failure} {error : ValidationError} {depth : Nat}
  {slot : Slot}

/-- A node reports a value as a whole under its own type or under one that its predicate puts down. -/
theorem words_of_own
    (own : question.schema.OwnFailure question.effective question.parent failure) :
    Words question failure := by
  have reported := own
  rcases reported with rfl | ⟨predicate, mine, worded⟩
  · exact .plainly own rfl
  · -- Only a detailed verdict may name a type, which counts unless the node fixes its own.
    cases verdict : predicate question.effective (question.schema.asks question.parent) with
    | pass => simp [verdict, Verdict.failure?] at worded
    | fail | reason =>
      simp only [verdict, Verdict.failure?, Option.some.injEq] at worded
      exact .plainly own (worded ▸ rfl)
    | detailed patch =>
      simp only [verdict, Verdict.failure?, Option.some.injEq] at worded
      have typed := congrArg Failure.expected worded
      dsimp only at typed
      split at typed
      · exact .plainly own typed.symm
      · cases named : patch.expected with
        | none => exact .plainly own (by simpa [named] using typed.symm)
        | some type => exact .patched own mine verdict (by simpa [named] using typed)

/-- A failure that the question to blame keeps the type of, the first question keeps as well. -/
theorem KeepsType.blamed (blames : Blames links question next)
    (keeps : KeepsType links next failure) : KeepsType links question failure := by
  -- The origin is the same, only one question further on.
  obtain ⟨origin, reported, onward, reports, same⟩ := keeps
  exact ⟨origin, reported, .blamed blames onward, reports, same⟩

/-- Every failure of a slot keeps its type: the container reports it itself where nothing is declared,
and elsewhere it comes from the value of the slot. -/
theorem KeepsType.of_slot (plain : schema.IsPlain)
    (applied : schema.effective value parent = effective)
    (refused : Question.answer links ⟨depth + 1, schema, value, parent⟩ = .ok (.error error))
    (among : failure ∈ error.failures) (opens : Opens schema effective slot)
    {failures : List Failure} (refuses : slot.Refuses (validate links depth) effective failures)
    (inside : failure ∈ failures)
    (below : ∀ field, slot.declared = some field → ∀ inner,
      Question.answer links ⟨depth, field, slot.value, some effective⟩ = .ok (.error inner) →
        ∀ failure ∈ inner.failures,
          KeepsType links ⟨depth, field, slot.value, some effective⟩ failure) :
    KeepsType links ⟨depth + 1, schema, value, parent⟩ failure := by
  rcases refuses with ⟨unknown, rfl⟩ | ⟨field, inner, declared, refusedSlot, rfl⟩
  · -- The failure is the container's own, so there is nothing to trace it back to.
    obtain rfl := List.mem_singleton.1 inside
    subst applied
    exact ⟨_, _, .here, ⟨plain, ⟨error, refused, among⟩, .undeclared opens unknown⟩, rfl⟩
  · -- Seen from the container, the failure has another way and the same type.
    obtain ⟨found, present, rfl⟩ := List.mem_map.1 inside
    obtain ⟨origin, reported, onward, reports, same⟩ :=
      below field declared inner refusedSlot found present
    exact ⟨origin, reported, .inside applied opens declared onward, reports, same⟩

/-- A plain node that refuses a value does so itself, or because it refuses a place of the value. -/
theorem Concludes.plain_or_slot {check : Checker}
    (concluded : Concludes links check schema value parent (.error error))
    (plain : schema.IsPlain)
    (kept : ∀ next, Leads links schema next → ∀ name parent accepted,
      check next (.string name) parent = .ok (.ok accepted) → accepted = .string name) :
    ∀ failure ∈ error.failures, schema.OwnFailure value parent failure ∨
      ∃ slot failures, Opens schema value slot ∧ slot.Refuses check value failures ∧
        failure ∈ failures := by
  intro failure found
  cases concluded with
  | refused _ own =>
    -- A value that is refused as a whole has a single failure.
    obtain rfl := List.mem_singleton.1 found
    exact .inl own
  | shape _ checked =>
    obtain ⟨slot, among, failures, refuses, inside⟩ := exists_refusing_name checked failure found
    exact .inr ⟨slot, failures, .name among, refuses, inside⟩
  | list _ checked =>
    obtain ⟨slot, among, failures, refuses, inside⟩ := exists_refusing_place checked failure found
    exact .inr ⟨slot, failures, .element among, refuses, inside⟩
  | tuple _ checked =>
    obtain ⟨slot, among, failures, refuses, inside⟩ := exists_refusing_place checked failure found
    exact .inr ⟨slot, failures, .item among, refuses, inside⟩
  | dict _ checked =>
    obtain ⟨⟨name, held⟩, among, failures, refuses, inside⟩ :=
      exists_refusing_entry checked failure found
    -- The entry is refused for its name, or for what it holds under the name that it has.
    rcases refuses with ⟨inner, refused, rfl⟩ | ⟨accepted, read, inner, taken, text, refused, rfl⟩
    · exact .inr ⟨_, _, .key among, .inr ⟨_, inner, rfl, refused, rfl⟩, inside⟩
    · obtain rfl := kept _ .key name _ accepted taken
      have same : name = read := by simpa [keyText, Value.toText?] using text
      subst same
      exact .inr ⟨_, _, .entry among, .inr ⟨_, inner, rfl, refused, rfl⟩, inside⟩
  -- What is left hands on the failures of another question, as no plain node does.
  | noAlternative | part => cases plain.noCombination
  | target | selected => exact absurd trivial plain.noReference

/-- Every failure of a refused question keeps the type under which a plain node has reported it. -/
theorem keepsType_of_refused (compiled : Throughout links HasAlternatives question.schema)
    (refused : question.answer links = .ok (.error error)) :
    ∀ failure ∈ error.failures, KeepsType links question failure := by
  -- Whoever is blamed, and whatever is asked about a place, has fewer steps left.
  induction steps : question.depth generalizing question error with
  | zero => exact absurd steps (Question.depth_ne_zero refused)
  | succ depth ih =>
    intro failure found
    rcases isPlain_or_blames compiled.here refused with plain | ⟨next, blames⟩
    · -- A plain node reports the value itself, or what it has asked about a place of it.
      obtain ⟨_, schema, value, parent⟩ := question
      obtain rfl := steps
      rcases (Question.concludes rfl refused).plain_or_slot plain
        (fun _ _ _ _ _ taken => (kept_validate taken).of_string) failure found with
        own | ⟨slot, failures, opens, refuses, inside⟩
      · exact ⟨_, _, .here, ⟨plain, ⟨error, refused, found⟩, words_of_own own⟩, rfl⟩
      · refine .of_slot plain rfl refused found opens refuses inside ?_
        intro field declared inner refusedSlot
        exact ih (compiled.below (opens.leads declared)) refusedSlot rfl
    · -- The question to blame has the same failures, so it is asked where they come from.
      obtain ⟨leads, later⟩ := blames.leads
      obtain ⟨inner, refusedNext, same⟩ := blames.failures refused
      rw [← same] at found
      exact .blamed blames
        (ih (compiled.below leads) refusedNext (Nat.succ.inj (later.symm.trans steps)) failure found)

end Schema

namespace Struct

open Schema

/-- The question that a struct asks about a value. -/
def question (struct : Struct) (value : Value) : Question :=
  ⟨depthLimit, struct.schema, value, none⟩

/-- A struct refuses a value with the settled error of its root. -/
theorem exists_settled {links : Links} {struct : Struct} {value : Value} {error : ValidationError}
    (refused : struct.validate links value = .ok (.error error)) :
    ∃ found, (struct.question value).answer links = .ok (.error found) ∧ error = found.settle := by
  unfold validate validateRoot at refused
  rw [bind_pure_eq_ok_iff] at refused
  obtain ⟨outcome, answered, settled⟩ := refused
  -- What is accepted is left alone.
  cases outcome with
  | ok accepted => simp [Except.mapError] at settled
  | error found =>
    simp only [Except.mapError, Except.error.injEq] at settled
    exact ⟨found, answered, settled.symm⟩

end Struct

namespace Schema

/-- Where unions offer something, the failures of a refusal are those of a plain node, handed on
unchanged by every union, intersection and reference on the way to it. Once settled, they keep the
types under which plain nodes have reported them, except that the first stands under the type of the
union or intersection that the question comes to through references, if it comes to one. A struct
refuses with a settled error, which stands under the type of its first failure and is worded and
reported like its failures. -/
theorem refusals_blamed (links : Links) :
    (∀ question error, Throughout links HasAlternatives question.schema →
      question.answer links = .ok (.error error) →
        (∃ blamed, BlamesOnward links question blamed ∧ blamed.schema.IsPlain) ∧
        (∀ blamed, BlamesOnward links question blamed →
          ∃ inner, blamed.answer links = .ok (.error inner) ∧ inner.failures = error.failures) ∧
        ∃ root, RefersOnward links question root ∧ ¬ root.schema.IsReference ∧
          (∃ first, KeepsType links question first ∧
            error.settle.first =
              { first with expected := root.schema.combinedType?.getD first.expected }) ∧
          -- What has been said of questions is put together, and a struct asks the first of them.
          ∀ failure ∈ error.settle.rest, KeepsType links question failure) ∧
    ∀ (struct : Struct) value error, struct.validate links value = .ok (.error error) →
      (∃ found, (struct.question value).answer links = .ok (.error found) ∧
        error = found.settle) ∧
      error.failures ≠ [] ∧ error.expected = error.first.expected ∧
        error.message = error.first.message ∧
        List.Forall₂ (fun failure line => ∃ place, line = place ++ failure.message)
          error.failures error.report := by
  constructor
  · intro question error compiled refused
    obtain ⟨root, onward, noReference, override⟩ := exists_root refused
    have keeps := keepsType_of_refused compiled refused
    refine ⟨exists_blamed_plain compiled refused,
      fun blamed onward => failures_of_blamesOnward onward refused,
      root, onward, noReference, ⟨error.first, ?_, ?_⟩, ?_⟩
    · exact keeps error.first List.mem_cons_self
    · -- Settling writes the type over the error into its first failure.
      rw [← override]
      rfl
    · intro failure later
      exact keeps failure (List.mem_cons_of_mem _ later)
  · intro struct value error refused
    obtain ⟨found, answered, rfl⟩ := Struct.exists_settled refused
    exact ⟨⟨found, answered, rfl⟩, found.settle.failures_ne_nil, found.expected_settle,
      found.message_settle, found.report_settle⟩

/-- A schema of a single value. -/
def onlyTrue : Schema :=
  .enumeration ⟨"true", none⟩ [.bool true]

/-- A choice that only one value passes, whichever way it goes. -/
def choice : Schema :=
  .union ⟨"choice", none⟩ [onlyTrue, onlyTrue]

/-- A list of choices. -/
def choices : Schema :=
  .list ⟨"[choice]", none⟩ (Registry.hasTag .array) choice

/-- An intersection of nothing but a list of choices. -/
def bothChoices : Schema :=
  .intersection ⟨"both", none⟩ [choices]

/-- A union of nothing but an intersection. -/
def eitherChoices : Schema :=
  .union ⟨"either", none⟩ [bothChoices]

/-- A reference to a union. -/
def choiceLinks : Links :=
  [(0, eitherChoices)]

/-- The nodes that the reference leads to. -/
theorem throughout_choices : Throughout choiceLinks HasAlternatives (.lazy 0) := by
  -- Below the reference stand a union, an intersection, a list, another union and a value.
  refine .of_closed (fun node => node = .lazy 0 ∨ node = eitherChoices ∨ node = bothChoices ∨
    node = choices ∨ node = choice ∨ node = onlyTrue) (.inl rfl) ?_ ?_
  · intro node next among leads
    rcases among with rfl | rfl | rfl | rfl | rfl | rfl
    · cases leads with
      | target known =>
        cases known
        exact .inr (.inl rfl)
    · cases leads with
      | alternative among =>
        obtain rfl := List.mem_singleton.1 among
        simp
    · cases leads with
      | part among =>
        obtain rfl := List.mem_singleton.1 among
        simp
    · cases leads
      simp
    · cases leads with
      | alternative among =>
        have same : next = onlyTrue := by simpa using among
        simp [same]
    · cases leads
  · -- Every one of the unions has an alternative.
    intro node among
    rcases among with rfl | rfl | rfl | rfl | rfl | rfl <;> simp [HasAlternatives, eitherChoices,
      bothChoices, choices, choice, onlyTrue]

/-- Of two values that are no choices, the first is reported under the type of the union at the root
and the second under that of the schema that has refused it, whatever stands in between. -/
theorem refusals_blamed_choices :
    ∃ error, (Factory.builtin.lazy 0).validate choiceLinks (.array [.null, .null]) =
        .ok (.error error) ∧
      error.failures.map Failure.expected = ["either", "true"] ∧ error.expected = "either" ∧
      (∃ blamed, BlamesOnward choiceLinks
        ((Factory.builtin.lazy 0).question (.array [.null, .null])) blamed ∧
          blamed.schema.IsPlain) ∧
      ∀ failure ∈ error.rest, KeepsType choiceLinks
        ((Factory.builtin.lazy 0).question (.array [.null, .null])) failure := by
  obtain ⟨error, refused, types⟩ : ∃ error,
      (Factory.builtin.lazy 0).validate choiceLinks (.array [.null, .null]) = .ok (.error error) ∧
        error.failures.map Failure.expected = ["either", "true"] := ⟨_, rfl, rfl⟩
  obtain ⟨⟨found, answered, rfl⟩, _, sameType, _, _⟩ :=
    (refusals_blamed choiceLinks).2 _ _ error refused
  obtain ⟨⟨blamed, onward⟩, _, _, _, _, _, keeps⟩ :=
    (refusals_blamed choiceLinks).1 _ found throughout_choices answered
  refine ⟨found.settle, refused, types, ?_, ⟨blamed, onward⟩, keeps⟩
  -- The type of the error is that of its first failure.
  rw [sameType]
  exact (List.cons.inj types).1

end Schema

end Conform
