import Conform.Proofs.Config.Blind
import Conform.Proofs.Schema.Idempotence

/-! Validating what validation has accepted, once that has been printed and read again.

A schema from documents looks at values through blind types alone, and only its root may have a
default, so a second validation finds nothing left to fill in. -/

namespace Conform.Schema

open Value (printed)

/-- Two runs end alike, where those that accept give back what they were asked about. -/
inductive Echoes {ε : Type} (value copy : Value) : Run (Except ε Value) → Run (Except ε Value) → Prop
  | accepted : Echoes value copy (.ok (.ok value)) (.ok (.ok copy))
  -- The errors may differ, since they quote what they were asked about.
  | refused (error other : ε) : Echoes value copy (.ok (.error error)) (.ok (.error other))
  | stopped (reason : Stop) : Echoes value copy (.error reason) (.error reason)

variable {value copy : Value} {bare : Bool} {links : Links}

/-- Runs that end alike still do when they go on, if they go on alike from alike ends. -/
theorem Echoes.bind {ε δ : Type} {first second : Run (Except ε Value)}
    {next after : Except ε Value → Run (Except δ Value)} (echoes : Echoes value copy first second)
    (accepts : Echoes value copy (next (.ok value)) (after (.ok copy)))
    (refuses : ∀ error other, Echoes value copy (next (.error error)) (after (.error other))) :
    Echoes value copy (first >>= next) (second >>= after) := by
  -- There are three ways to end alike, and each of them goes on alike.
  cases echoes with
  | accepted => exact accepts
  | refused error other => exact refuses error other
  | stopped reason => exact .stopped reason

/-- If one run accepts, it gives back its value, and the other run does so as well. -/
theorem Echoes.eq_of_accepted {ε : Type} {result : Value} {second : Run (Except ε Value)}
    (echoes : Echoes value copy (.ok (.ok result)) second) :
    result = value ∧ second = .ok (.ok copy) := by
  -- Only one way to end alike accepts.
  cases echoes
  exact ⟨rfl, rfl⟩

/-- Verdicts that agree judge alike. -/
theorem echoes_judge {verdict other : Verdict} (same : other.isPass = verdict.isPass)
    (expected : String) (fixed : Bool) :
    Echoes value copy (.ok (judge verdict value expected fixed))
      (.ok (judge other copy expected fixed)) := by
  -- Both pass, or both word a failure.
  by_cases passes : verdict.isPass = true
  · rw [judge_of_isPass passes, judge_of_isPass (same.trans passes)]
    exact .accepted
  · obtain ⟨_, _, refused⟩ := exists_failure_of_not_isPass passes value expected fixed
    obtain ⟨_, _, refusedToo⟩ := exists_failure_of_not_isPass (same ▸ passes) copy expected fixed
    rw [refused, refusedToo]
    exact .refused _ _

/-- Alternatives that end alike one by one end alike together. -/
theorem echoes_firstAccepting {check again : Schema → Run Outcome} {alternatives : List Schema}
    (each : ∀ alternative ∈ alternatives,
      Echoes value copy (check alternative) (again alternative))
    (first other : Option ValidationError) :
    Echoes value copy (firstAccepting check alternatives first)
      (firstAccepting again alternatives other) := by
  induction alternatives generalizing first other with
  | nil => exact .refused first other
  | cons alternative rest ih =>
    have later := ih fun next among => each next (List.mem_cons_of_mem _ among)
    rw [firstAccepting, firstAccepting]
    -- The others are asked on both sides or on neither.
    exact (each alternative List.mem_cons_self).bind .accepted fun _ _ => later _ _

/-- Parts that end alike one by one end alike in a row, since each hands on what it was given. -/
theorem echoes_passThrough {check again : Schema → Value → Run Outcome} {parts : List Schema}
    (each : ∀ part ∈ parts, Echoes value copy (check part value) (again part copy)) :
    Echoes value copy (passThrough check parts value) (passThrough again parts copy) := by
  -- The parts are gone through in their order, and a refusal ends it on both sides.
  induction parts with
  | nil => exact .accepted
  | cons part rest ih =>
    have later := ih fun next among => each next (List.mem_cons_of_mem _ among)
    rw [passThrough, passThrough]
    exact (each part List.mem_cons_self).bind later .refused

/-- Schemas that judge values by blind types, without a look into them. Bare ones have no defaults. -/
inductive Judging (bare : Bool) : Schema → Prop
  | scalar {label : Label} {predicate : Predicate} (own : bare = true → label.defaults = none)
      (blind : Blind predicate) : Judging bare (scalar label predicate)
  | union {label : Label} {alternatives : List Schema} (own : bare = true → label.defaults = none)
      (each : ∀ alternative ∈ alternatives, Judging bare alternative) :
      Judging bare (union label alternatives)
  | intersection {label : Label} {parts : List Schema} (own : bare = true → label.defaults = none)
      (each : ∀ part ∈ parts, Judging bare part) : Judging bare (intersection label parts)

/-- Where there is no default or the value is defined, the value itself is checked. -/
theorem effective_of_bare_or_defined {schema : Schema} (replaces : ¬ schema.Merges)
    (own : bare = true → schema.defaults = none) (defined : bare = false → value.isUndefined = false)
    (parent : Option Value) : schema.effective value parent = value := by
  cases given : schema.defaults with
  | none => exact effective_of_defaultFree given value parent
  | some defaults =>
    -- Only a schema that is not bare has a default, and there the value is defined.
    cases bare with
    | true => simp [own rfl] at given
    | false => simp [effective_of_not_merges replaces given, defined rfl]

/-- Judging schemas tell no values apart that resemble each other, wherever these stand. -/
theorem Judging.echoes {schema : Schema} (judging : Judging bare schema)
    (resembles : value.Resembles copy) (defined : bare = false → value.isUndefined = false)
    (depth : Nat) (parent other : Option Value) :
    Echoes value copy (validate links depth schema value parent)
      (validate links depth schema copy other) := by
  have definedToo : bare = false → copy.isUndefined = false := fun needed =>
    resembles.isUndefined_eq.trans (defined needed)
  -- Children are asked about the same values, one step less deep.
  induction judging generalizing depth with
  | @scalar label predicate own blind =>
    cases depth with
    | zero => exact .stopped .tooDeep
    | succ depth =>
      rw [validate, validate, effective_of_bare_or_defined id own defined,
        effective_of_bare_or_defined id own definedToo]
      -- The predicate does not tell the two apart.
      exact echoes_judge (blind value copy parent other resembles) label.type true
  | @union label alternatives own each ih =>
    cases depth with
    | zero => exact .stopped .tooDeep
    | succ depth =>
      rw [validate, validate, effective_of_bare_or_defined id own defined,
        effective_of_bare_or_defined id own definedToo, checkEffective, checkEffective]
      -- The alternatives are tried in the same order on both sides.
      exact (echoes_firstAccepting (fun alternative among => ih alternative among depth)
        none none).bind .accepted fun _ _ => .refused _ _
  | @intersection label parts own each ih =>
    cases depth with
    | zero => exact .stopped .tooDeep
    | succ depth =>
      rw [validate, validate, effective_of_bare_or_defined id own defined,
        effective_of_bare_or_defined id own definedToo, checkEffective, checkEffective]
      -- The parts see the value itself, since those before them have given it back.
      exact (echoes_passThrough fun part among => ih part among depth).bind .accepted
        fun _ _ => .refused _ _

/-- What a check has accepted stays as undefined or as plain as what it came from, and once it has
been printed it is accepted as it is. -/
structure Reprints (check : Checker) (schema : Schema) (value accepted : Value) : Prop where
  -- An undefined value has no print, so it has to stay away from what is printed.
  absent : value = .undefined → accepted = .undefined
  plain : value.Plain → accepted.Plain
  again : ∀ other, check schema accepted.printed other = .ok (.ok accepted.printed)

/-- All that a check accepts of what is shown to it is accepted again once it has been printed. -/
def ReprintsAll (check : Checker) (schema : Schema) : Prop :=
  ∀ value parent accepted, value.Shown → check schema value parent = .ok (.ok accepted) →
    Reprints check schema value accepted

/-- No place of a tuple may be left undefined. -/
def Gapless (check : Checker) (schemas : List Schema) : Prop :=
  ∀ schema ∈ schemas, ∀ parent accepted, check schema .undefined parent ≠ .ok (.ok accepted)

section Containers

variable {check : Checker} {items : List Value} {members : Members Value} {accepted : Value}

/-- What a list has made of plain data is accepted again once it has been printed. -/
theorem list_reprints {element : Schema} (plain : ∀ item ∈ items, item.Plain)
    (below : ReprintsAll check element)
    (checked : checkItems check items (listSlots element items) = .ok (.ok accepted)) :
    ∃ results, accepted = .array results ∧ (∀ result ∈ results, result.Plain) ∧
      checkItems check (results.map printed) (listSlots element (results.map printed)) =
        .ok (.ok (.array (results.map printed))) := by
  obtain ⟨results, rfl, each⟩ := checkItems_list_eq_ok_iff.1 checked
  -- Each result has come from an element.
  have reprints : ∀ result ∈ results, ∃ item ∈ items, Reprints check element item result := by
    intro result given
    obtain ⟨item, held, checkedItem⟩ := exists_related each.flip result given
    exact ⟨item, held, below _ _ _ (.inr (plain item held)) checkedItem⟩
  refine ⟨results, rfl, fun result given => ?_, ?_⟩
  · obtain ⟨item, held, reprint⟩ := reprints result given
    exact reprint.plain (plain item held)
  · refine checkItems_list_eq_ok_iff.2 ⟨_, rfl, List.forall₂_same.2 fun copy among => ?_⟩
    obtain ⟨result, given, rfl⟩ := List.mem_map.1 among
    obtain ⟨item, -, reprint⟩ := reprints result given
    exact reprint.again _

/-- What a tuple without gaps has made of plain data is accepted again once it has been printed. -/
theorem tuple_reprints {schemas : List Schema} (plain : ∀ item ∈ items, item.Plain)
    (gapless : Gapless check schemas) (below : ∀ schema ∈ schemas, ReprintsAll check schema)
    (checked : checkItems check items (tupleSlots schemas items) = .ok (.ok accepted)) :
    ∃ results, accepted = .array results ∧ (∀ result ∈ results, result.Plain) ∧
      checkItems check (results.map printed) (tupleSlots schemas (results.map printed)) =
        .ok (.ok (.array (results.map printed))) := by
  obtain ⟨-, results, rfl, length, each⟩ := checkItems_tuple_eq_ok_iff.1 checked
  -- Each result has come from an element, because a missing one would have been refused.
  have reprints : ∀ (place : Nat) schema result, schemas[place]? = some schema →
      results[place]? = some result → result.Plain ∧
        ∀ other, check schema (printed result) other = .ok (.ok (printed result)) := by
    intro place schema result declared given
    have among := List.mem_of_getElem? declared
    have checkedItem := each place schema result declared given
    cases held : items[place]? with
    | none =>
      rw [held, Option.getD_none] at checkedItem
      exact absurd checkedItem (gapless schema among _ result)
    | some item =>
      rw [held, Option.getD_some] at checkedItem
      have plainItem := plain item (List.mem_of_getElem? held)
      have reprint := below schema among _ _ _ (.inr plainItem) checkedItem
      exact ⟨reprint.plain plainItem, reprint.again⟩
  refine ⟨results, rfl, fun result given => ?_, ?_⟩
  · -- A result stands at the place of a schema.
    obtain ⟨place, inside, found⟩ := List.mem_iff_getElem.1 given
    have declared := List.getElem?_eq_getElem (length ▸ inside)
    exact (reprints place _ result declared (List.getElem?_eq_some_iff.2 ⟨inside, found⟩)).1
  · -- No place is missing any more, and each one gives back what is printed there.
    refine checkItems_tuple_eq_ok_iff.2 ⟨by simp [length], _, rfl, by simp [length], ?_⟩
    intro place schema copy declared given
    rw [given, Option.getD_some]
    rw [List.getElem?_map, Option.map_eq_some_iff] at given
    obtain ⟨result, given, rfl⟩ := given
    exact (reprints place schema result declared given).2 _

end Containers

section Shapes

variable {check : Checker} {defaults : Option Defaults} {fields : Members Schema}
  {members : Members Value} {accepted : Value} {name : String}

/-- What a default comes to under a name is plain data, if it comes to anything. -/
def PlainTable (defaults : Option Defaults) : Prop :=
  ∀ given, defaults = some given → ∃ value, given = .value value ∧ value.Plain

/-- A default of plain data does not look at the container. -/
theorem PlainTable.ignoresParent (table : PlainTable defaults) :
    ∀ given, defaults = some given → given.IgnoresParent := by
  -- The default is a value, which is what it is everywhere.
  intro given same
  obtain ⟨value, rfl, -⟩ := table given same
  exact .value

/-- What is checked under a name is shown. -/
theorem PlainTable.shown_candidate (table : PlainTable defaults)
    (plain : ∀ name item, (name, item) ∈ members → item.Plain) (name : String) :
    (candidate defaults members name).Shown := by
  cases held : members.get? name with
  | some item =>
    -- An item of plain data is defined, so it is checked itself.
    have plainItem := plain name item (Members.mem_of_get? held)
    rw [candidate_of_defined held plainItem.isUndefined_eq]
    exact .inr plainItem
  | none =>
    rw [candidate_of_undefined (by simp [held])]
    cases defaults with
    | none => exact .inl rfl
    | some given =>
      obtain ⟨value, rfl, plainValue⟩ := table given rfl
      -- A default object holds plain data under its names, and other defaults hold nothing.
      show ((value.get? name).getD .undefined).Shown
      cases found : value.get? name with
      | none => exact .inl rfl
      | some item =>
        cases plainValue with
        | object distinct each => exact .inr (each name item (Members.mem_of_get? found))
        | _ => cases found

/-- The default of a shape is plain data, and its fields reprint all that they accept of the plain data
that they are given. -/
structure FieldsReprint (check : Checker) (defaults : Option Defaults) (fields : Members Schema)
    (members : Members Value) : Prop where
  declaredOnce : fields.names.Nodup
  table : PlainTable defaults
  plain : ∀ name item, (name, item) ∈ members → item.Plain
  below : ∀ name field, (name, field) ∈ fields → ReprintsAll check field

/-- Under a declared name stands what its schema has made of the value there, unless that has stayed
undefined. -/
theorem ShapeAccepts.reprints {result : Members Value} {field : Schema}
    (accepts : ShapeAccepts check .exact defaults fields members result)
    (reprint : FieldsReprint check defaults fields members) (declared : (name, field) ∈ fields) :
    ∃ value, Reprints check field (candidate defaults members name) value ∧
      (value = .undefined ∧ candidate defaults members name = .undefined ∧
          members.contains name = false ∧ result.get? name = none ∨
        value.Plain ∧ result.get? name = some value) := by
  have shown := reprint.table.shown_candidate reprint.plain name
  -- No name is skipped where none may be absent.
  obtain ⟨value, checked, read⟩ := accepts.examined name field declared fun skips => by
    cases skips.1
  have again := reprint.below name field declared _ _ _ shown checked
  refine ⟨value, again, ?_⟩
  rcases shown with absent | plain
  · -- Plain data would have been checked under a name that is held.
    have unheld : members.get? name = none := by
      cases held : members.get? name with
      | none => rfl
      | some item =>
        have defined := (reprint.plain name item (Members.mem_of_get? held)).isUndefined_eq
        rw [candidate_of_defined held defined] at absent
        simp [absent, Value.isUndefined] at defined
    obtain rfl := again.absent absent
    have lacking : members.contains name = false := by simp [Members.contains, unheld]
    exact .inl ⟨rfl, absent, lacking, by simpa [lacking, Value.isUndefined] using read⟩
  · exact .inr ⟨again.plain plain, by simpa [(again.plain plain).isUndefined_eq] using read⟩

/-- What an exact shape has made of plain data is accepted again once it has been printed. -/
theorem shape_reprints (reprint : FieldsReprint check defaults fields members)
    (distinct : members.names.Nodup)
    (checked : checkShape check .exact defaults fields members = .ok (.ok accepted)) :
    ∃ result : Members Value, accepted = .object result ∧ result.names.Nodup ∧
      (∀ name item, (name, item) ∈ result → item.Plain) ∧
      checkShape check .exact defaults fields
          (result.map fun member => (member.1, member.2.printed)) =
        .ok (.ok (.object (result.map fun member => (member.1, member.2.printed)))) := by
  obtain ⟨result, rfl, accepts⟩ := checkShape_eq_ok reprint.declaredOnce distinct checked
  have known := accepts.known_result (by simp)
  refine ⟨result, rfl, accepts.distinct, fun name item held => ?_, ?_⟩
  · -- Whatever stands in the object has come from a field.
    obtain ⟨field, declared⟩ := Members.exists_of_mem_names (known name (Members.mem_names held))
    have found := Members.get?_of_mem accepts.distinct held
    obtain ⟨value, -, ⟨-, -, -, nothing⟩ | ⟨plain, same⟩⟩ := accepts.reprints reprint declared
    · cases found.symm.trans nothing
    · cases found.symm.trans same
      exact plain
  · refine checkShape_of_fixed reprint.declaredOnce (by simpa using accepts.distinct)
      (fun _ => by simpa using known) fun name field declared _ => ?_
    -- What is checked under the name is what was accepted there, as it has been printed.
    obtain ⟨value, again, ⟨rfl, absent, lacking, nothing⟩ | ⟨plain, found⟩⟩ :=
      accepts.reprints reprint declared
    · have kept : (candidate defaults members name).Kept .undefined := absent ▸ .same _
      rw [candidate_result reprint.table.ignoresParent kept
        (by simp [lacking, nothing, Value.isUndefined])]
      exact ⟨again.again _, fun defined => by cases defined⟩
    · have held : Members.get? (result.map fun member => (member.1, member.2.printed)) name =
          some value.printed := by simp [found]
      rw [candidate_of_defined held plain.printed.isUndefined_eq]
      exact ⟨again.again _, fun _ => held⟩

end Shapes

/-- Schemas as documents describe them: containers stand behind built-in guards, and what they hold is
bare. -/
inductive Documented : Bool → Schema → Prop
  | judging {bare : Bool} {schema : Schema} (judging : Judging bare schema) : Documented bare schema
  | list {bare : Bool} {label : Label} {guard : Predicate} {element : Schema}
      (own : bare = true → label.defaults = none)
      (builtin : Registry.builtin.get? "array" = some guard) (inner : Documented true element) :
      Documented bare (list label guard element)
  | tuple {bare : Bool} {label : Label} {guard : Predicate} {items : List Schema}
      (own : bare = true → label.defaults = none)
      (builtin : Registry.builtin.get? "array" = some guard)
      (each : ∀ item ∈ items, Documented true item) : Documented bare (tuple label guard items)
  -- Documents describe exact shapes alone.
  | shape {bare : Bool} {label : Label} {guard : Predicate} {fields : Members Schema}
      (own : bare = true → label.defaults = none) (table : PlainTable label.defaults)
      (builtin : Registry.builtin.get? "object" = some guard) (distinct : fields.names.Nodup)
      (each : ∀ name field, (name, field) ∈ fields → Documented true field) :
      Documented bare (shape label .exact guard fields)

/-- No place of a tuple accepts undefined, however deep its check may go. -/
def LeavesNoGaps (links : Links) : Schema → Prop
  | tuple _ _ items => ∀ depth, Gapless (validate links depth) items
  | _ => True

variable {schema : Schema} {depth : Nat} {parent : Option Value} {accepted : Value}

/-- A validation of a value that needs no default concludes with the value itself. -/
theorem concludes_of_bare_or_defined (replaces : ¬ schema.Merges)
    (own : bare = true → schema.defaults = none) (defined : bare = false → value.isUndefined = false)
    (checked : validate links depth schema value parent = .ok (.ok accepted)) :
    ∃ below, depth = below + 1 ∧
      Concludes links (validate links below) schema value parent (.ok accepted) := by
  -- A validation that accepts has taken a step, and the default has not come into it.
  cases depth with
  | zero => cases checked
  | succ below =>
    refine ⟨below, rfl, concludes_of_checkEffective ?_⟩
    rwa [validate, effective_of_bare_or_defined replaces own defined] at checked

/-- A defined value is accepted by a validation that can conclude with it. -/
theorem validate_of_concludes (replaces : ¬ schema.Merges) (defined : value.isUndefined = false)
    (concluded : Concludes links (validate links depth) schema value parent (.ok accepted)) :
    validate links (depth + 1) schema value parent = .ok (.ok accepted) := by
  -- The default is not asked for, so the step is taken on the value itself.
  have own : false = true → schema.defaults = none := by simp
  rw [validate, effective_of_bare_or_defined replaces own fun _ => defined]
  exact checkEffective_of_concludes concluded

/-- What a documented schema without gaps in tuples has made of plain data is plain data, and is accepted
as it is once it has been printed. Undefined it leaves undefined. -/
theorem Documented.reprints (documented : Documented bare schema)
    (gapless : Throughout links (LeavesNoGaps links) schema) (shown : value.Shown)
    (defined : bare = false → value.isUndefined = false)
    (checked : validate links depth schema value parent = .ok (.ok accepted)) :
    Reprints (validate links depth) schema value accepted := by
  -- Containers hold bare schemas, so their parts need not be defined.
  induction documented generalizing depth value parent accepted with
  | judging judging =>
    have unchanged := fun other =>
      (checked ▸ judging.echoes shown.resembles defined depth parent other).eq_of_accepted
    obtain rfl := (unchanged none).1
    exact ⟨id, id, fun other => (unchanged other).2⟩
  -- The elements are checked again, one step less deep.
  | @list _ label guard element own builtin inner ih =>
    obtain ⟨below, rfl, concluded⟩ := concludes_of_bare_or_defined id own defined checked
    cases concluded with
    | list admits checkedItems =>
      have reprintsAll : ReprintsAll (validate links below) element := fun _ _ _ shown checked =>
        ih (gapless.below .element) shown (by simp) checked
      obtain ⟨results, rfl, plain, again⟩ :=
        list_reprints shown.of_array reprintsAll checkedItems
      refine ⟨by simp, fun _ => .array plain, fun other => ?_⟩
      rw [Value.printed_array plain]
      exact validate_of_concludes id rfl (.list (isPass_of_builtin_array builtin _ none) again)
    | admitted leaf => exact leaf.elim
  -- A place that was missing would not have been accepted, so all of them are there again.
  | @tuple _ label guard items own builtin each ih =>
    obtain ⟨below, rfl, concluded⟩ := concludes_of_bare_or_defined id own defined checked
    cases concluded with
    | tuple admits checkedItems =>
      have reprintsAll : ∀ item ∈ items, ReprintsAll (validate links below) item :=
        fun item among _ _ _ shown checked =>
          ih item among (gapless.below (.item among)) shown (by simp) checked
      obtain ⟨results, rfl, plain, again⟩ :=
        tuple_reprints shown.of_array (gapless.here below) reprintsAll checkedItems
      refine ⟨by simp, fun _ => .array plain, fun other => ?_⟩
      rw [Value.printed_array plain]
      exact validate_of_concludes id rfl (.tuple (isPass_of_builtin_array builtin _ none) again)
    | admitted leaf => exact leaf.elim
  -- The members are complete, so the default is not asked for again.
  | @shape _ label guard fields own table builtin distinct each ih =>
    have replaces : ¬ Merges (.shape label .exact guard fields) := by simp [Merges]
    obtain ⟨below, rfl, concluded⟩ := concludes_of_bare_or_defined replaces own defined checked
    cases concluded with
    | @shape _ _ _ _ members _ _ _ checkedMembers =>
      obtain ⟨distinctNames, plainMembers⟩ := shown.of_object
      have reprint : FieldsReprint (validate links below) label.defaults fields members :=
        ⟨distinct, table, plainMembers, fun name field declared _ _ _ shown checked =>
          ih name field declared (gapless.below (.field declared)) shown (by simp) checked⟩
      obtain ⟨result, rfl, distinctResult, plain, again⟩ :=
        shape_reprints reprint distinctNames checkedMembers
      refine ⟨by simp, fun _ => .object distinctResult plain, fun other => ?_⟩
      rw [Value.printed_object plain]
      exact validate_of_concludes replaces rfl
        (.shape (isPass_of_builtin_object builtin _ none) again)
    | admitted leaf => exact leaf.elim

end Conform.Schema
