import Conform.Proofs.Schema.Depth
import Conform.Proofs.Schema.Places
import Conform.Schema.Build

/-! Alternatives of alternatives are alternatives, and parts of parts are parts: groups in a union or in
an intersection can be opened up without a change of its type or of its results. -/

namespace Conform.Schema

/-- The two ways to put schemas in a row: one of them has to accept, or all of them in turn. -/
inductive Connective where
  | either
  | both

/-- What a check tells, whatever type stands over its failures. -/
abbrev Told := Except (List Failure) Value

/-- What there is to be told of an outcome. -/
def told (outcome : Outcome) : Told :=
  outcome.mapError ValidationError.failures

/-- Whether a run comes to an outcome of which a given thing is told. -/
def Tells (run : Run Outcome) (told : Told) : Prop :=
  run.map Schema.told = .ok told

/-- Of a run that comes to an outcome there is to be told what is told of the outcome. -/
theorem tells_of_eq_ok {run : Run Outcome} {outcome : Outcome} (ran : run = .ok outcome) :
    Tells run (told outcome) := by
  -- What is told of a run is told of its outcome, if it has one.
  rw [ran]
  rfl

/-- A value is told of if it is accepted. -/
theorem tells_ok_iff {run : Run Outcome} {made : Value} :
    Tells run (.ok made) ↔ run = .ok (.ok made) := by
  rcases run with reason | error | accepted <;> simp [Tells, told, Except.map, Except.mapError]

/-- Failures are told of if they are those of an error. -/
theorem tells_error_iff {run : Run Outcome} {failures : List Failure} :
    Tells run (.error failures) ↔ ∃ error, run = .ok (.error error) ∧ error.failures = failures := by
  rcases run with reason | error | accepted <;> simp [Tells, told, Except.map, Except.mapError]

namespace Connective

variable {connective : Connective}

/-- What is written between the types of the schemas. -/
def separator : Connective → String
  | either => " | "
  | both => " & "

/-- The node of schemas in a row. -/
def node : Connective → Label → List Schema → Schema
  | either => .union
  | both => .intersection

/-- Puts schemas in a row. -/
def build (connective : Connective) (scope : Scope) (schemas : List Schema)
    (defaults : Option Defaults) : Schema :=
  connective.node ⟨scope.joinTypes connective.separator schemas, defaults⟩ schemas

/-- What is told of two checks in a row: one alternative after the other until one accepts, where the
failures of the first are kept; or the second part on what the first has made of the value. -/
inductive Sequel (first rest : Value → Told → Prop) : Connective → Value → Told → Prop where
  | chosen {value made : Value} (accepts : first value (.ok made)) :
      Sequel first rest .either value (.ok made)
  | fallback {value made : Value} {failures : List Failure} (refuses : first value (.error failures))
      (accepts : rest value (.ok made)) : Sequel first rest .either value (.ok made)
  -- The failures of the first are the ones that are told.
  | exhausted {value : Value} {failures others : List Failure}
      (refuses : first value (.error failures)) (refusesToo : rest value (.error others)) :
      Sequel first rest .either value (.error failures)
  | continued {value made : Value} {told : Told} (accepts : first value (.ok made))
      (goesOn : rest made told) : Sequel first rest .both value told
  | stopped {value : Value} {failures : List Failure} (refuses : first value (.error failures)) :
      Sequel first rest .both value (.error failures)

variable {first rest : Value → Told → Prop} {value : Value} {told : Told}

/-- Where more is told of the checks, more is told of them in a row. -/
theorem Sequel.imp {first' rest' : Value → Told → Prop}
    (head : ∀ value told, first value told → first' value told)
    (tail : ∀ value told, rest value told → rest' value told)
    (sequel : Sequel first rest connective value told) :
    Sequel first' rest' connective value told := by
  -- Whichever way the checks have gone, each has told what it is said to.
  cases sequel with
  | chosen accepts => exact .chosen (head _ _ accepts)
  | fallback refuses accepts => exact .fallback (head _ _ refuses) (tail _ _ accepts)
  | exhausted refuses refusesToo => exact .exhausted (head _ _ refuses) (tail _ _ refusesToo)
  | continued accepts goesOn => exact .continued (head _ _ accepts) (tail _ _ goesOn)
  | stopped refuses => exact .stopped (head _ _ refuses)

/-- Where the same is told of the checks, the same is told of them in a row. -/
theorem Sequel.congr {first' rest' : Value → Told → Prop}
    (head : ∀ value told, first value told ↔ first' value told)
    (tail : ∀ value told, rest value told ↔ rest' value told) :
    Sequel first rest connective value told ↔ Sequel first' rest' connective value told :=
  ⟨.imp (fun _ _ => (head _ _).1) fun _ _ => (tail _ _).1,
    .imp (fun _ _ => (head _ _).2) fun _ _ => (tail _ _).2⟩

/-- Of three checks in a row it does not matter which two are taken together. -/
theorem sequel_assoc (first second third : Value → Told → Prop) :
    Sequel (fun value told => Sequel first second connective value told) third connective value told ↔
      Sequel first (fun value told => Sequel second third connective value told) connective value
        told := by
  -- Either way the same checks have come to the same: each case names those that have taken place.
  constructor
  · intro sequel
    cases sequel with
    | chosen accepts =>
      cases accepts with
      | chosen accepts => exact .chosen accepts
      | fallback refuses accepts => exact .fallback refuses (.chosen accepts)
    | fallback refuses accepts =>
      cases refuses with
      | exhausted refuses refusesToo => exact .fallback refuses (.fallback refusesToo accepts)
    | exhausted refuses refusesLast =>
      cases refuses with
      | exhausted refuses refusesToo => exact .exhausted refuses (.exhausted refusesToo refusesLast)
    | continued accepts goesOn =>
      cases accepts with
      | continued accepts acceptsToo => exact .continued accepts (.continued acceptsToo goesOn)
    | stopped refuses =>
      cases refuses with
      | continued accepts refuses => exact .continued accepts (.stopped refuses)
      | stopped refuses => exact .stopped refuses
  · intro sequel
    cases sequel with
    | chosen accepts => exact .chosen (.chosen accepts)
    | fallback refuses accepts =>
      cases accepts with
      | chosen accepts => exact .chosen (.fallback refuses accepts)
      | fallback refusesToo accepts => exact .fallback (.exhausted refuses refusesToo) accepts
    | exhausted refuses refusesToo =>
      cases refusesToo with
      | exhausted refusesToo refusesLast =>
        exact .exhausted (.exhausted refuses refusesToo) refusesLast
    | continued accepts goesOn =>
      cases goesOn with
      | continued acceptsToo goesOn => exact .continued (.continued accepts acceptsToo) goesOn
      | stopped refuses => exact .stopped (.continued accepts refuses)
    | stopped refuses => exact .stopped (.stopped refuses)

end Connective

/-- An error that is kept stays, whatever the alternatives come to. -/
theorem firstAccepting_some (check : Schema → Run Outcome) (alternatives : List Schema)
    (error : ValidationError) :
    firstAccepting check alternatives (some error) =
      (firstAccepting check alternatives none).map (Except.mapError fun _ => some error) := by
  induction alternatives generalizing error with
  | nil => rfl
  | cons alternative rest ih =>
    simp only [firstAccepting]
    rcases check alternative with reason | refused | made
    · rfl
    · -- The others are tried with the one error or with the other, and only the first is kept.
      show firstAccepting check rest (some error) =
        (firstAccepting check rest (some refused)).map (Except.mapError fun _ => some error)
      rw [ih error, ih refused]
      rcases firstAccepting check rest none with reason | kept | made <;> rfl
    · rfl

/-- Behind a refused alternative the others come to what they come to by themselves, under its error. -/
theorem firstAccepting_cons_of_refused {check : Schema → Run Outcome} {first : Schema}
    {error : ValidationError} (refused : check first = .ok (.error error)) (rest : List Schema) :
    firstAccepting check (first :: rest) none =
      (firstAccepting check rest none).map (Except.mapError fun _ => some error) := by
  -- Once an error is known, it stands over whatever the others report.
  rw [firstAccepting, refused, ← firstAccepting_some]
  rfl

variable {links : Links} {check larger : Checker} {connective : Connective} {label : Label}
  {parent : Option Value} {value : Value} {told : Told}

/-- A union tells what has come of its alternatives. -/
theorem tells_union_iff {alternatives : List Schema} :
    Tells (checkEffective links check (.union label alternatives) value parent) told ↔
      ∃ ending, firstAccepting (check · value parent) alternatives none = .ok ending ∧
        told = ending.mapError fun first =>
          (first.getD ((union label alternatives).mismatch value)).failures := by
  -- The type of the union, which is put over the error, is not part of what is told.
  simp only [checkEffective]
  rcases firstAccepting (check · value parent) alternatives none with reason | first | made
  · simp [Tells, Bind.bind, Except.bind, Except.map]
  · exact ⟨fun tells => ⟨_, rfl, (Except.ok.inj tells).symm⟩, fun ending => by
      obtain ⟨_, same, rfl⟩ := ending
      cases same
      rfl⟩
  · exact ⟨fun tells => ⟨_, rfl, (Except.ok.inj tells).symm⟩, fun ending => by
      obtain ⟨_, same, rfl⟩ := ending
      cases same
      rfl⟩

/-- Of alternatives the same is told as of the first followed by the others. -/
theorem tells_union_cons (first : Schema) (rest : List Schema) :
    Tells (checkEffective links check (.union label (first :: rest)) value parent) told ↔
      Connective.either.Sequel (fun value told => Tells (check first value parent) told)
        (fun value told => Tells (checkEffective links check (.union label rest) value parent) told)
        value told := by
  rw [tells_union_iff]
  constructor
  · -- The first alternative has been checked in any case, and its outcome decides about the rest.
    intro ends
    obtain ⟨ending, ran, rfl⟩ := ends
    rcases checked : check first value parent with reason | error | made
    · rw [firstAccepting, checked] at ran
      cases ran
    · have refuses := tells_error_iff.2 ⟨error, checked, rfl⟩
      rw [firstAccepting_cons_of_refused checked] at ran
      -- The others have come to an end, and the error of the first stands over it.
      rcases others : firstAccepting (check · value parent) rest none with reason | kept | made
      · rw [others] at ran
        cases ran
      · rw [others] at ran
        cases ran
        exact .exhausted refuses (tells_union_iff.2 ⟨_, others, rfl⟩)
      · rw [others] at ran
        cases ran
        exact .fallback refuses (tells_union_iff.2 ⟨_, others, rfl⟩)
    · rw [firstAccepting, checked] at ran
      cases ran
      exact .chosen (tells_ok_iff.2 checked)
  · -- Each way the checks may have gone says how the search has run.
    intro sequel
    cases sequel with
    | chosen accepts =>
      refine ⟨.ok _, ?_, rfl⟩
      rw [firstAccepting, tells_ok_iff.1 accepts]
      rfl
    | fallback refuses accepts =>
      obtain ⟨error, checked, rfl⟩ := tells_error_iff.1 refuses
      obtain ⟨others, ran, same⟩ := tells_union_iff.1 accepts
      refine ⟨_, by rw [firstAccepting_cons_of_refused checked, ran]; rfl, ?_⟩
      cases others <;> cases same
      rfl
    | exhausted refuses refusesToo =>
      obtain ⟨error, checked, rfl⟩ := tells_error_iff.1 refuses
      obtain ⟨others, ran, same⟩ := tells_union_iff.1 refusesToo
      refine ⟨_, by rw [firstAccepting_cons_of_refused checked, ran]; rfl, ?_⟩
      cases others <;> cases same
      rfl

/-- Of parts the same is told as of the first followed by the others. -/
theorem tells_intersection_cons (first : Schema) (rest : List Schema) :
    Tells (checkEffective links check (.intersection label (first :: rest)) value parent) told ↔
      Connective.both.Sequel (fun value told => Tells (check first value parent) told)
        (fun value told =>
          Tells (checkEffective links check (.intersection label rest) value parent) told)
        value told := by
  simp only [checkEffective, passThrough]
  constructor
  · -- The first part has been checked in any case, and what it accepts goes on to the rest.
    intro tells
    rcases checked : check first value parent with reason | error | made
    · rw [checked] at tells
      cases tells
    · rw [checked] at tells
      cases tells
      exact .stopped (tells_error_iff.2 ⟨error, checked, rfl⟩)
    · rw [checked] at tells
      exact .continued (tells_ok_iff.2 checked) tells
  · intro sequel
    cases sequel with
    | continued accepts goesOn =>
      rw [tells_ok_iff.1 accepts]
      exact goesOn
    | stopped refuses =>
      obtain ⟨error, checked, rfl⟩ := tells_error_iff.1 refuses
      rw [checked]
      rfl

/-- Of schemas in a row the same is told as of the first followed by the others. -/
theorem tells_cons (first : Schema) (rest : List Schema) :
    Tells (checkEffective links check (connective.node label (first :: rest)) value parent) told ↔
      connective.Sequel (fun value told => Tells (check first value parent) told)
        (fun value told =>
          Tells (checkEffective links check (connective.node label rest) value parent) told)
        value told := by
  -- The two connectives are gone through by loops of their own.
  cases connective with
  | either => exact tells_union_cons first rest
  | both => exact tells_intersection_cons first rest

/-- Of a single schema in a row the same is told as of that schema. -/
theorem tells_singleton (only : Schema) :
    Tells (checkEffective links check (connective.node label [only]) value parent) told ↔
      Tells (check only value parent) told := by
  rw [tells_cons]
  -- No alternatives refuse everything, and no parts accept it as it is.
  constructor
  · intro sequel
    cases sequel with
    | chosen accepts => exact accepts
    | fallback refuses accepts => cases accepts
    | exhausted refuses refusesToo => exact refuses
    | continued accepts goesOn =>
      cases goesOn
      exact accepts
    | stopped refuses => exact refuses
  · intro tells
    cases connective with
    | either =>
      cases told with
      | ok made => exact .chosen tells
      | error failures => exact .exhausted tells rfl
    | both =>
      cases told with
      | ok made => exact .continued tells rfl
      | error failures => exact .stopped tells

/-- Of two rows of schemas in one the same is told as of the one followed by the other, under whatever
type, if there are schemas in the first. -/
theorem tells_append (inner : Label) {front : List Schema} (nonempty : front ≠ [])
    (back : List Schema) :
    Tells (checkEffective links check (connective.node label (front ++ back)) value parent) told ↔
      connective.Sequel
        (fun value told =>
          Tells (checkEffective links check (connective.node inner front) value parent) told)
        (fun value told =>
          Tells (checkEffective links check (connective.node label back) value parent) told)
        value told := by
  induction front generalizing value told with
  | nil => exact absurd rfl nonempty
  | cons first rest ih =>
    by_cases last : rest = []
    · subst last
      rw [List.singleton_append, tells_cons]
      exact Connective.Sequel.congr (fun _ _ => (tells_singleton first).symm) fun _ _ => .rfl
    · -- The first schema and those behind it are taken together.
      rw [List.cons_append, tells_cons,
        Connective.Sequel.congr (fun _ _ => .rfl) fun _ _ => ih last, ← Connective.sequel_assoc]
      exact Connective.Sequel.congr (fun _ _ => (tells_cons first rest).symm) fun _ _ => .rfl

/-- Over the failures of schemas in a row stands the type of their node. -/
theorem override_of_node {schemas : List Schema} {error : ValidationError}
    (checked : checkEffective links check (connective.node label schemas) value parent =
      .ok (.error error)) : error.override = some label.type := by
  -- Whichever of the schemas has refused, its error is retyped in the end.
  cases connective with
  | either =>
    simp only [Connective.node, checkEffective, bind_eq_ok_iff] at checked
    obtain ⟨ending, _, returned⟩ := checked
    cases ending <;> cases returned
    rfl
  | both =>
    simp only [Connective.node, checkEffective, bind_eq_ok_iff] at checked
    obtain ⟨ending, _, returned⟩ := checked
    cases ending <;> cases returned
    rfl

/-- An outcome of schemas in a row is known by what is told of it. -/
theorem eq_ok_of_tells {schemas others : List Schema} {outcome : Outcome}
    (checked : checkEffective links check (connective.node label schemas) value parent = .ok outcome)
    (tells : Tells (checkEffective links larger (connective.node label others) value parent)
      (Schema.told outcome)) :
    checkEffective links larger (connective.node label others) value parent = .ok outcome := by
  -- A value is told of as it is, and an error by its failures.
  cases outcome with
  | ok made => exact tells_ok_iff.1 tells
  | error error =>
    obtain ⟨error', checked', same⟩ := tells_error_iff.1 tells
    -- The same type stands over the same failures.
    have override := (override_of_node checked').trans (override_of_node checked).symm
    rw [checked', ValidationError.ext_failures override same]

/-- Schemas in groups, none of which is empty, and groups in groups. -/
inductive Grouping where
  | member (schema : Schema)
  | group (first : Grouping) (others : List Grouping)

namespace Grouping

mutual

/-- The schemas of all groups, in order. -/
def members : Grouping → List Schema
  | member schema => [schema]
  | group first others => first.members ++ membersOfAll others
termination_by structural grouping => grouping

/-- The schemas of several groupings, in order. -/
def membersOfAll : List Grouping → List Schema
  | [] => []
  | first :: others => first.members ++ membersOfAll others
termination_by structural groupings => groupings

end

mutual

/-- Combines the schemas of each group. -/
def build (combine : List Schema → Schema) : Grouping → Schema
  | member schema => schema
  | group first others => combine (first.build combine :: buildAll combine others)
termination_by structural grouping => grouping

/-- Combines the schemas of each group in several groupings. -/
def buildAll (combine : List Schema → Schema) : List Grouping → List Schema
  | [] => []
  | first :: others => first.build combine :: buildAll combine others
termination_by structural groupings => groupings

end

mutual

/-- How many groups there are one inside the other. -/
def nesting : Grouping → Nat
  | member _ => 0
  | group first others => max first.nesting (nestingOfAll others) + 1
termination_by structural grouping => grouping

/-- How many groups there are one inside the other, in several groupings. -/
def nestingOfAll : List Grouping → Nat
  | [] => 0
  | first :: others => max first.nesting (nestingOfAll others)
termination_by structural groupings => groupings

end

/-- There is a schema in every grouping. -/
theorem members_ne_nil : ∀ grouping : Grouping, grouping.members ≠ []
  | member _ => by simp [members]
  | group first others => by simp [members, members_ne_nil first]

variable {scope : Scope} {connective : Connective}

/-- Types are joined in the same way whether the first of them is one type or several joined before. -/
theorem joinTypes_cons {separator : String} {schema : Schema} {front rest back : List Schema}
    (nonempty : front ≠ []) (head : schema.type scope.links = scope.joinTypes separator front)
    (tail : scope.joinTypes separator rest = scope.joinTypes separator back)
    (together : rest = [] ↔ back = []) :
    scope.joinTypes separator (schema :: rest) = scope.joinTypes separator (front ++ back) := by
  simp only [Scope.joinTypes] at *
  -- The separator stands behind the first type if there is one more, and so on both sides.
  by_cases last : rest = []
  · simp [last, together.1 last, head]
  · rw [List.map_cons, String.intercalate_cons_of_ne_nil (by simpa using last), List.map_append,
      String.intercalate_append_of_ne_nil (by simpa using nonempty)
        (by simpa using fun none => last (together.2 none)), head, tail]

/-- There is a schema in several groupings unless there is no grouping. -/
theorem buildAll_eq_nil_iff {combine : List Schema → Schema} {groupings : List Grouping} :
    buildAll combine groupings = [] ↔ membersOfAll groupings = [] := by
  cases groupings <;> simp [buildAll, membersOfAll, members_ne_nil]

/-- The type of schemas in a row is their types joined. -/
theorem type_build (schemas : List Schema) (defaults : Option Defaults) (links : Links) :
    (connective.build scope schemas defaults).type links =
      scope.joinTypes connective.separator schemas := by
  -- No reference has to be followed, so the links do not matter.
  cases connective <;> cases links <;> rfl

mutual

/-- Grouped schemas have the type of all of them joined. -/
theorem type_grouped : ∀ grouping : Grouping,
    (grouping.build (connective.build scope · none)).type scope.links =
      scope.joinTypes connective.separator grouping.members
  | member schema => by simp [build, members, Scope.joinTypes]
  -- A group counts as much as its members put in its place.
  | group first others => by
    rw [build, type_build, members]
    exact joinTypes_cons first.members_ne_nil (type_grouped first) (joinTypes_grouped others)
      buildAll_eq_nil_iff

/-- The types of grouped schemas joined are the types of all of them joined. -/
theorem joinTypes_grouped : ∀ groupings : List Grouping,
    scope.joinTypes connective.separator (buildAll (connective.build scope · none) groupings) =
      scope.joinTypes connective.separator (membersOfAll groupings)
  | [] => rfl
  -- The types are joined in order, so those of the first grouping come first.
  | first :: others => by
    rw [buildAll, membersOfAll]
    exact joinTypes_cons first.members_ne_nil (type_grouped first) (joinTypes_grouped others)
      buildAll_eq_nil_iff

end

section Results

variable {links : Links} {label : Label} {parent : Option Value} {value : Value} {told : Told}

/-- A check that may go deeper tells the same. -/
theorem tells_of_extends {run larger : Run Outcome}
    (extended : ∀ outcome, run = .ok outcome → larger = .ok outcome) (tells : Tells run told) :
    Tells larger told := by
  -- A run of which something is told has come to an outcome.
  cases ran : run with
  | error reason =>
    rw [ran] at tells
    cases tells
  | ok outcome =>
    rw [extended outcome ran]
    rwa [ran] at tells

/-- A group is checked as its schemas in a row, one step further on. -/
theorem validate_group (depth : Nat) (schemas : List Schema) (value : Value) :
    validate links (depth + 1) (connective.build scope schemas none) value parent =
      checkEffective links (validate links depth)
        (connective.node ⟨scope.joinTypes connective.separator schemas, none⟩ schemas) value
        parent := by
  cases connective <;> rfl

/-- What is told of grouped schemas is told of all of them in a row, no deeper than before. -/
theorem tells_members (depth : Nat) (groupings : List Grouping)
    (tells : Tells (checkEffective links (validate links depth)
      (connective.node label (buildAll (connective.build scope · none) groupings)) value parent)
      told) :
    Tells (checkEffective links (validate links depth)
      (connective.node label (membersOfAll groupings)) value parent) told := by
  -- The groups inside a group are checked one step further on, so the induction is on the depth.
  induction depth using Nat.strongRecOn generalizing groupings label value told with
  | ind depth ih =>
    induction groupings generalizing value told with
    | nil => exact tells
    | cons first others ihOthers =>
      rw [buildAll, tells_cons] at tells
      cases first with
      | member schema =>
        rw [membersOfAll, members, List.singleton_append, tells_cons]
        exact tells.imp (fun _ _ tells => tells) fun _ _ => ihOthers
      | group head tail =>
        -- The members of the group are checked by themselves first, under the label that the group
        -- has.
        let inner : Label :=
          ⟨scope.joinTypes connective.separator
            (buildAll (connective.build scope · none) (head :: tail)), none⟩
        rw [membersOfAll, tells_append inner (members_ne_nil _)]
        refine tells.imp (fun value told tells => ?_) fun _ _ => ihOthers
        cases depth with
        | zero => cases tells
        | succ depth =>
          rw [build, validate_group] at tells
          exact tells_of_extends
            (fun _ => checkEffective_of_extends (validate_of_le (Nat.le_succ depth)))
            (ih depth (Nat.lt_succ_self depth) (head :: tail) tells)

/-- What is told of schemas in a row is told of them in groups, if these may go as many steps deeper as
there are groups inside each other. -/
theorem tells_buildAll (depth extra : Nat) (groupings : List Grouping)
    (bounded : nestingOfAll groupings ≤ extra)
    (tells : Tells (checkEffective links (validate links depth)
      (connective.node label (membersOfAll groupings)) value parent) told) :
    Tells (checkEffective links (validate links (depth + extra))
      (connective.node label (buildAll (connective.build scope · none) groupings)) value parent)
      told := by
  have deeper : Extends (validate links depth) (validate links (depth + extra)) :=
    validate_of_le (Nat.le_add_right depth extra)
  -- There are fewer groups inside each other within a group, so the induction is on their number.
  induction extra using Nat.strongRecOn generalizing groupings label value told with
  | ind extra ih =>
    induction groupings generalizing value told with
    | nil => exact tells_of_extends (fun _ => checkEffective_of_extends deeper) tells
    | cons first others ihOthers =>
      rw [nestingOfAll] at bounded
      rw [buildAll, tells_cons]
      cases first with
      | member schema =>
        rw [membersOfAll, members, List.singleton_append, tells_cons] at tells
        exact tells.imp (fun _ _ => tells_of_extends (deeper _ _ _))
          fun _ _ => ihOthers (by omega)
      | group head tail =>
        -- The members of the group can be taken together under the label that the group has.
        let inner : Label :=
          ⟨scope.joinTypes connective.separator
            (buildAll (connective.build scope · none) (head :: tail)), none⟩
        rw [membersOfAll, tells_append inner (members_ne_nil _)] at tells
        refine tells.imp (fun value told tells => ?_) fun _ _ => ihOthers (by omega)
        rw [nesting] at bounded
        cases extra with
        | zero => omega
        | succ extra =>
          rw [build, ← Nat.add_assoc, validate_group]
          have inside : nestingOfAll (head :: tail) ≤ extra := by
            rw [nestingOfAll]
            omega
          exact ih extra (Nat.lt_succ_self extra) (head :: tail) inside tells
            (validate_of_le (Nat.le_add_right depth extra))

/-- The value that schemas in a row check depends on their label alone. -/
theorem effective_node (schemas others : List Schema) (value : Value) (parent : Option Value) :
    (connective.node label schemas).effective value parent =
      (connective.node label others).effective value parent := by
  cases connective <;> rfl

/-- Schemas in a row come to the outcome that they come to in groups. -/
theorem validate_members {depth : Nat} {groupings : List Grouping} {outcome : Outcome}
    (checked : validate links depth
      (connective.node label (buildAll (connective.build scope · none) groupings)) value parent =
        .ok outcome) :
    validate links depth (connective.node label (membersOfAll groupings)) value parent =
      .ok outcome := by
  -- Both have the same label, so they check the same value one step further on.
  cases depth with
  | zero => cases checked
  | succ depth =>
    rw [validate, effective_node _ (membersOfAll groupings)] at *
    exact eq_ok_of_tells checked (tells_members depth groupings (tells_of_eq_ok checked))

/-- Schemas in groups come to the outcome that they come to in a row, if they may go deeper. -/
theorem validate_buildAll {depth : Nat} {groupings : List Grouping} {outcome : Outcome}
    (checked : validate links depth (connective.node label (membersOfAll groupings)) value parent =
      .ok outcome) :
    validate links (depth + nestingOfAll groupings)
      (connective.node label (buildAll (connective.build scope · none) groupings)) value parent =
        .ok outcome := by
  -- Both have the same label, so they check the same value one step further on.
  cases depth with
  | zero => cases checked
  | succ depth =>
    rw [Nat.add_right_comm]
    rw [validate, effective_node _ (membersOfAll groupings)] at *
    exact eq_ok_of_tells checked
      (tells_buildAll depth _ groupings (Nat.le_refl _) (tells_of_eq_ok checked))

end Results

end Grouping

/-- Two schemas have one type and come to the same results, also once the type that stands over an error
has been put into it; only that the one may have to go a number of steps deeper than the other. -/
structure SameResults (links : Links) (extra : Nat) (deep flat : Schema) : Prop where
  type : deep.type links = flat.type links
  flattened : ∀ depth value parent outcome, validate links depth deep value parent = .ok outcome →
    validate links depth flat value parent = .ok outcome
  deepened : ∀ depth value parent outcome, validate links depth flat value parent = .ok outcome →
    validate links (depth + extra) deep value parent = .ok outcome
  -- Once settled the type over an error is gone from sight but stands in its first failure.
  settledFlat : ∀ value outcome, validateRoot links deep value = .ok outcome →
    validateRoot links flat value = .ok outcome
  settledDeep : ∀ depth value outcome, depth + extra ≤ depthLimit →
    validate links depth flat value none = .ok outcome →
      validateRoot links deep value = validateRoot links flat value

/-- Results that are the same before the type over an error is put into it are the same afterwards. -/
theorem SameResults.of_validate {extra : Nat} {deep flat : Schema}
    (type : deep.type links = flat.type links)
    (flattened : ∀ depth value parent outcome,
      validate links depth deep value parent = .ok outcome →
        validate links depth flat value parent = .ok outcome)
    (deepened : ∀ depth value parent outcome,
      validate links depth flat value parent = .ok outcome →
        validate links (depth + extra) deep value parent = .ok outcome) :
    SameResults links extra deep flat where
  type := type
  flattened := flattened
  deepened := deepened
  settledFlat := by
    intro value outcome settled
    rw [validateRoot, bind_pure_eq_ok_iff] at settled ⊢
    obtain ⟨found, checked, same⟩ := settled
    exact ⟨found, flattened _ _ _ _ checked, same⟩
  settledDeep := by
    intro depth value outcome within checked
    -- Both come to that outcome well before they have gone too deep.
    have shallow := validate_of_le (Nat.le_of_add_right_le within) _ _ _ _ checked
    have deeper := validate_of_le within _ _ _ _ (deepened _ _ _ _ checked)
    rw [validateRoot, validateRoot, shallow, deeper]

/-- Schemas in groups come to the same as in a row. -/
theorem sameResults_grouped (scope : Scope) (connective : Connective) (groupings : List Grouping)
    (defaults : Option Defaults) (links : Links) :
    SameResults links (Grouping.nestingOfAll groupings)
      (connective.build scope (Grouping.buildAll (connective.build scope · none) groupings) defaults)
      (connective.build scope (Grouping.membersOfAll groupings) defaults) := by
  -- The joined types agree, so both nodes have the same label.
  have types : scope.joinTypes connective.separator
      (Grouping.buildAll (connective.build scope · none) groupings) =
        scope.joinTypes connective.separator (Grouping.membersOfAll groupings) :=
    Grouping.joinTypes_grouped groupings
  refine .of_validate ?_ ?_ ?_
  · rw [Grouping.type_build, Grouping.type_build, types]
  · intro depth value parent outcome checked
    rw [Connective.build, types] at checked
    exact Grouping.validate_members checked
  · intro depth value parent outcome checked
    rw [Connective.build, types]
    exact Grouping.validate_buildAll checked

/-- It does not matter how the alternatives of a union, or the parts of an intersection, are put into
groups, and these into groups again: opening up all groups changes neither the type nor the results. -/
theorem grouping_immaterial (scope : Scope) (groupings : List Grouping)
    (defaults : Option Defaults) (links : Links) :
    SameResults links (Grouping.nestingOfAll groupings)
      (scope.union (Grouping.buildAll (scope.union · none) groupings) defaults)
      (scope.union (Grouping.membersOfAll groupings) defaults) ∧
    SameResults links (Grouping.nestingOfAll groupings)
      (scope.intersection (Grouping.buildAll (scope.intersection · none) groupings) defaults)
      (scope.intersection (Grouping.membersOfAll groupings) defaults) :=
  -- Unions and intersections are the two connectives.
  ⟨sameResults_grouped scope .either groupings defaults links,
    sameResults_grouped scope .both groupings defaults links⟩

end Conform.Schema
