import Conform.Proofs.Schema.Kinds
import Conform.Proofs.Value.Place

/-! What a container reports is what its places report, one after another: nothing is lost on the way,
and nothing is made up. -/

namespace Conform

/-- An error is known by its failures and by the type that is put over it. -/
theorem ValidationError.ext_failures {error other : ValidationError}
    (override : error.override = other.override) (failures : error.failures = other.failures) :
    error = other := by
  -- An error is its first failure, the others, and the type over it.
  obtain ⟨_, first, rest⟩ := error
  obtain ⟨_, first', rest'⟩ := other
  obtain ⟨rfl, rfl⟩ := List.cons.inj failures
  obtain rfl := override
  rfl

/-- The failures that an outcome tells of. -/
def toldFailures : Outcome → List Failure
  | .ok _ => []
  | .error error => error.failures

/-- Findings are gathered into an outcome that tells of all that they report. -/
theorem toldFailures_gather {α : Type} (findings : List (Except (List Failure) α))
    (wrap : List α → Value) :
    toldFailures ((gather findings).map wrap) = findings.flatMap reportedFailures := by
  rw [gather_eq]
  -- The first failure, if there is one, makes an error.
  cases findings.flatMap reportedFailures <;> rfl

/-- A run over places tells of all that is reported there, in order and under no type of its own. -/
structure Collects (run : Run Outcome) (reports : Run (List (List Failure))) : Prop where
  failures : run.map toldFailures = reports.map List.flatten
  plain : ∀ error, run = .ok (.error error) → error.override = none

namespace Collects

variable {run : Run Outcome} {reports : Run (List (List Failure))}

/-- What is gathered from items is collected from the places that report like them. -/
theorem of_gather {α β : Type} {step : α → Run (Except (List Failure) β)}
    {wrap : List β → Value} {items : List α} {places : List Segment}
    {report : Segment → Run (List Failure)}
    (each : List.Forall₂ (fun item place => (step item).map reportedFailures = report place) items
      places) :
    Collects (do return (gather (← items.mapM step)).map wrap) (places.mapM report) := by
  rw [← map_mapM each]
  -- Either the items all come to findings, or the run over them stops.
  cases items.mapM step with
  | error reason => exact ⟨rfl, fun error refused => by cases refused⟩
  | ok findings =>
    refine ⟨congrArg Except.ok (toldFailures_gather findings wrap), fun error refused => ?_⟩
    cases gathered : gather findings with
    | ok results => simp [Bind.bind, Except.bind, Pure.pure, Except.pure, gathered, Except.map]
        at refused
    | error found =>
      simp only [Bind.bind, Except.bind, Pure.pure, Except.pure, gathered, Except.map,
        Except.ok.injEq, Except.error.injEq] at refused
      exact refused ▸ (gather_eq_error gathered).1

/-- What is collected is accepted exactly if nothing is reported. -/
theorem accepts_iff (collects : Collects run reports) :
    (∃ accepted, run = .ok (.ok accepted)) ↔
      ∃ lists, reports = .ok lists ∧ lists.flatten = [] := by
  have told := collects.failures
  constructor
  · intro accepts
    obtain ⟨accepted, rfl⟩ := accepts
    cases reports with
    | error reason => cases told
    | ok lists => exact ⟨lists, rfl, (Except.ok.inj told).symm⟩
  · intro silent
    obtain ⟨lists, rfl, nothing⟩ := silent
    -- A run that stops has no reports, and one that refuses has a failure to tell of.
    rcases run with reason | error | accepted
    · cases told
    · exact absurd ((Except.ok.inj told).trans nothing) error.failures_ne_nil
    · exact ⟨accepted, rfl⟩

/-- What is collected is refused with an error exactly if that has the reported failures, and no type
of its own. -/
theorem refuses_iff (collects : Collects run reports) (error : ValidationError) :
    run = .ok (.error error) ↔
      error.override = none ∧ ∃ lists, reports = .ok lists ∧ error.failures = lists.flatten := by
  have told := collects.failures
  constructor
  · intro refused
    refine ⟨collects.plain error refused, ?_⟩
    subst refused
    cases reports with
    | error reason => simp [Except.map] at told
    | ok lists => exact ⟨lists, rfl, Except.ok.inj told⟩
  · intro parts
    obtain ⟨plain, lists, rfl, all⟩ := parts
    -- There is a failure, so the run has come to an error, and that has the same failures.
    rcases run with reason | found | accepted
    · cases told
    · have same : found.failures = error.failures := (Except.ok.inj told).trans all.symm
      rw [ValidationError.ext_failures ((collects.plain found rfl).trans plain.symm) same]
    · exact absurd (all.trans (Except.ok.inj told).symm) error.failures_ne_nil

end Collects

namespace Schema

/-- Whether a node looks into what it checks. -/
def IsContainer : Schema → Prop
  | shape _ _ _ _ | list _ _ _ | tuple _ _ _ | dict _ _ _ _ => True
  | _ => False

/-- What a node has by default under a name of an object. -/
def substitute (defaults : Option Defaults) (members : Members Value) (name : String) : Value :=
  match defaults with
  | some given => given.resolveField name (.object members)
  | none => .undefined

/-- What stands under a declared name: what the object holds there, or else the default, also where the
object holds something undefined. -/
def standing (defaults : Option Defaults) (members : Members Value) (name : String) : Value :=
  match members.get? name with
  -- An undefined member is as good as none, so the default stands in for it.
  | some value => if value.isUndefined then substitute defaults members name else value
  | none => substitute defaults members name

/-- The steps to the places that a node looks at, in the order in which it does. A shape looks at the
names of an object and then at the declared names that it lacks, but if those may be absent, only where
a default stands in, and if other names are free, at the declared names alone. -/
def steps : Schema → Value → List Segment
  | shape label mode _ fields, .object members =>
    let absent := (Members.names fields).filter fun name => !Members.contains members name
    match mode with
    | .exact => (Members.names members ++ absent).map .key
    -- An absent name is of interest only for what its default would put there.
    | .sparse =>
      (Members.names members ++ absent.filter fun name =>
        !(substitute label.defaults members name).isUndefined).map .key
    | .extensible => (Members.names fields).map .key
  | list _ _ _, .array items => (List.range items.length).map .index
  -- Places beyond the schemas are looked at too, only to be refused.
  | tuple _ _ schemas, .array items => (List.range (max items.length schemas.length)).map .index
  | dict _ _ _ _, .object members => (Members.names members).map .key
  | _, _ => []

/-- The checks that a node makes at a place, each of a value against a schema; nothing if no schema is
declared there. A dictionary checks the key before the value. -/
def asked : Schema → Value → Segment → Option (List (Schema × Value))
  | shape label _ _ fields, .object members, .key name =>
    (Members.get? fields name).map fun schema => [(schema, standing label.defaults members name)]
  | list _ _ element, container, place => some [(element, container.inside place)]
  | tuple _ _ schemas, container, .index place =>
    schemas[place]?.map fun schema => [(schema, container.inside (.index place))]
  | dict _ _ key item, container, .key name =>
    some [(key, .string name), (item, container.inside (.key name))]
  | _, _, _ => none

/-- The failures of the first check that refuses, as they look from the container: one step further in
and told from there. -/
def firstRefusal (check : Checker) (container : Value) (step : Segment) :
    List (Schema × Value) → Run (List Failure)
  | [] => .ok []
  | (schema, value) :: rest => do
    match ← check schema value (some container) with
    -- What a check has made of the value is no concern of the next one.
    | .ok _ => firstRefusal check container step rest
    | .error error =>
      return error.failures.map fun failure =>
        { failure with path := step :: failure.path, data := container }

/-- What a node reports at a place: what stands where nothing is declared, and otherwise what the
checks there refuse. -/
def report (check : Checker) (node : Schema) (container : Value) (step : Segment) :
    Run (List Failure) :=
  match node.asked container step with
  | none => .ok [⟨container, [step], container.inside step, none, "undefined"⟩]
  | some questions => firstRefusal check container step questions

variable {links : Links} {check : Checker} {node schema : Schema} {container value : Value}
  {parent : Option Value} {label : Label} {mode : ShapeMode} {guard : Predicate}

/-- What is checked under a declared name is what stands there. -/
theorem candidate_eq_standing (defaults : Option Defaults) (members : Members Value)
    (name : String) : candidate defaults members name = standing defaults members name := by
  -- The name holds something defined, something undefined, or nothing.
  unfold candidate fieldValue standing substitute
  cases members.get? name with
  | none => cases defaults <;> rfl
  | some value =>
    cases defaults with
    | some given => rfl
    | none => cases value <;> rfl

/-- Whether a slot asks what its node asks at the place of the slot. -/
structure Stands (node : Schema) (container : Value) (slot : Slot) : Prop where
  asked : node.asked container slot.segment = slot.declared.map fun schema => [(schema, slot.value)]
  found : slot.declared = none → container.inside slot.segment = slot.value

/-- A slot is visited with what its node reports at the place of the slot. -/
theorem Stands.reported_visit {slot : Slot} (stands : Stands node container slot) :
    (slot.visit check container).map reportedFailures =
      report check node container slot.segment := by
  unfold Slot.visit report
  rw [stands.asked]
  cases declared : slot.declared with
  | none =>
    rw [stands.found declared]
    rfl
  | some schema =>
    simp only [Option.map_some, firstRefusal]
    -- The check comes to no outcome, or refuses, or accepts.
    rcases check schema slot.value (some container) with reason | error | accepted <;> rfl

/-- A visit of slots that stand for the places of a node collects what is reported there. -/
theorem collects_of_slots {slots : List Slot} {wrap : List (Slot × Value) → Value}
    (same : slots.map Slot.segment = node.steps container)
    (stand : ∀ slot ∈ slots, Stands node container slot) :
    Collects (do return (← visitAll check container slots).map wrap)
      ((node.steps container).mapM (report check node container)) := by
  -- Each slot reports what is reported at its place, so the visit gathers these reports.
  have each : List.Forall₂ (fun slot step => (slot.visit check container).map reportedFailures =
      report check node container step) slots (node.steps container) := by
    rw [← same, List.forall₂_map_right_iff, List.forall₂_same]
    exact fun slot among => (stand slot among).reported_visit
  have collected : Collects
      (do return (gather (← slots.mapM (Slot.visit check container))).map wrap) _ :=
    Collects.of_gather each
  simpa [visitAll] using collected

section Shapes

variable {defaults : Option Defaults} {fields : Members Schema} {members : Members Value}

/-- The slots of a shape stand for its places, in the order in which it looks at them. -/
theorem segments_shapeSlots (guard : Predicate) :
    (shapeSlots mode label.defaults fields members).map Slot.segment =
      steps (.shape label mode guard fields) (.object members) := by
  cases mode with
  | exact =>
    simp only [shapeSlots, steps, List.map_append, segments_memberSlots, segments_fieldSlots]
    rw [← Members.names_filter]
  | sparse =>
    -- The value of the slot of an absent name is its default.
    have defaulted : ∀ field ∈ fields.filter (fun field => !Members.contains members field.1),
        (!(fieldSlot label.defaults members (.object members) field).value.isUndefined) =
          !(substitute label.defaults members field.1).isUndefined := by
      intro field lacking
      have absent : members.get? field.1 = none := by
        simpa [Members.contains] using (List.mem_filter.1 lacking).2
      rw [fieldSlot_eq, candidate_eq_standing, standing, absent]
    simp only [shapeSlots, steps, List.map_append, segments_memberSlots, List.filter_map,
      segments_fieldSlots]
    rw [← Members.names_filter, ← Members.names_filter]
    exact congrArg (_ ++ ·) (congrArg _ (congrArg _ (List.filter_congr defaulted)))
  | extensible => exact segments_fieldSlots label.defaults fields members

/-- The slots of a shape ask what the shape asks at its places. -/
theorem stands_of_mem_shapeSlots (guard : Predicate) (declaredOnce : fields.names.Nodup)
    (distinct : members.names.Nodup) :
    ∀ slot ∈ shapeSlots mode label.defaults fields members,
      Stands (.shape label mode guard fields) (.object members) slot := by
  intro slot among
  rcases (mem_shapeSlots declaredOnce distinct).1 among with
    ⟨name, value, held, undeclared, _, rfl⟩ | ⟨name, schema, declared, _, rfl⟩
  · -- Nothing is declared under the name, and what is found there is what the object holds.
    constructor
    · simp [asked, Members.get?_of_not_mem undeclared]
    · simp [Members.get?_of_mem distinct held]
  · constructor
    · simp [asked, fieldSlot_eq, candidate_eq_standing, Members.get?_of_mem declaredOnce declared]
    · simp [fieldSlot_eq]

/-- The check of an object against a shape collects what the shape reports at its places. -/
theorem collects_checkShape (guard : Predicate) (declaredOnce : fields.names.Nodup)
    (distinct : members.names.Nodup) :
    Collects (checkShape check mode label.defaults fields members)
      ((steps (.shape label mode guard fields) (.object members)).mapM
        (report check (.shape label mode guard fields) (.object members))) := by
  -- An object is put together if the visit of the slots has results.
  have same : checkShape check mode label.defaults fields members =
      (do
        let visited ← visitAll check (.object members)
          (shapeSlots mode label.defaults fields members)
        return visited.map fun results => .object (assembled mode members results)) := by
    unfold checkShape
    rcases visitAll check (.object members) (shapeSlots mode label.defaults fields members) with
      reason | error | results <;> rfl
  rw [same]
  exact collects_of_slots (segments_shapeSlots guard)
    (stands_of_mem_shapeSlots guard declaredOnce distinct)

end Shapes

section Arrays

variable {items : List Value}

/-- The check of an array against a list collects what the list reports at its places. -/
theorem collects_checkList (guard : Predicate) (element : Schema) :
    Collects (checkItems check items (listSlots element items))
      ((steps (.list label guard element) (.array items)).mapM
        (report check (.list label guard element) (.array items))) := by
  refine collects_of_slots (segments_listSlots element items) fun slot among => ?_
  -- Each slot asks about the element of its place.
  obtain ⟨place, item, held, rfl⟩ := mem_listSlots among
  exact ⟨by simp [asked, held], by simp⟩

/-- The check of an array against a tuple collects what the tuple reports at its places. -/
theorem collects_checkTuple (guard : Predicate) (schemas : List Schema) :
    Collects (checkItems check items (tupleSlots schemas items))
      ((steps (.tuple label guard schemas) (.array items)).mapM
        (report check (.tuple label guard schemas) (.array items))) := by
  refine collects_of_slots ?_ fun slot among => ?_
  · simp [tupleSlots, steps]
  · -- A place asks the schema that is declared for it, and shows what stands there.
    obtain ⟨place, _, rfl⟩ := mem_tupleSlots.1 among
    exact ⟨by simp [asked], by simp⟩

end Arrays

section Dictionaries

variable {key item : Schema} {members : Members Value}

/-- An entry whose key stays as it is is checked with what its dictionary reports at its name. -/
theorem reported_checkEntry {name : String} (held : members.get? name = some value)
    (guard : Predicate)
    (kept : ∀ result, check key (.string name) (some (.object members)) = .ok (.ok result) →
      result = .string name) :
    (checkEntry check key item (.object members) (name, value)).map reportedFailures =
      report check (.dict label guard key item) (.object members) (.key name) := by
  simp only [report, asked, Value.inside_object, held, Option.getD_some, firstRefusal, checkEntry]
  -- The key comes first, and the value is only checked once the key has been accepted.
  rcases checked : check key (.string name) (some (.object members)) with reason | error | result
  · rfl
  · rfl
  · obtain rfl := kept result checked
    rcases check item value (some (.object members)) with reason | error | accepted <;> rfl

/-- The check of an object against a dictionary collects what the dictionary reports at its places, if
keys stay as they are. -/
theorem collects_checkDict (guard : Predicate) (distinct : members.names.Nodup)
    (kept : ∀ name result, check key (.string name) (some (.object members)) = .ok (.ok result) →
      result = .string name) :
    Collects (checkDict check key item members)
      ((steps (.dict label guard key item) (.object members)).mapM
        (report check (.dict label guard key item) (.object members))) := by
  -- Each entry reports what is reported at its place, so the check gathers these reports.
  have each : List.Forall₂ (fun entry place =>
      (checkEntry check key item (.object members) entry).map reportedFailures =
        report check (.dict label guard key item) (.object members) place) members
      (steps (.dict label guard key item) (.object members)) := by
    rw [steps, Members.names_eq_map, List.map_map, List.forall₂_map_right_iff, List.forall₂_same]
    intro entry among
    exact reported_checkEntry (Members.get?_of_mem distinct among) guard (kept entry.1)
  exact Collects.of_gather each

end Dictionaries

/-- A step into a container that lets the value in collects what is reported at its places, if accepted
texts stay as they are. -/
theorem collects_checkEffective (container : schema.IsContainer)
    (admits : schema.Admits value parent) (declaredOnce : schema.declaredNames.Nodup)
    (sound : value.WellFormed)
    (kept : ∀ next name parent result, check next (.string name) parent = .ok (.ok result) →
      result = .string name) :
    Collects (checkEffective links check schema value parent)
      ((schema.steps value).mapM (report check schema value)) := by
  -- What lets the value in hands it on to the check of its places.
  cases schema with
  | shape label mode guard fields =>
    obtain ⟨passes, members, rfl⟩ := admits
    have distinct := ((Value.wellFormed_object members).1 sound).1
    simp only [checkEffective, judge_of_isPass passes]
    exact collects_checkShape guard declaredOnce distinct
  | list label guard element =>
    obtain ⟨passes, items, rfl⟩ := admits
    simp only [checkEffective, judge_of_isPass passes]
    exact collects_checkList guard element
  | tuple label guard schemas =>
    obtain ⟨passes, items, rfl⟩ := admits
    simp only [checkEffective, judge_of_isPass passes]
    exact collects_checkTuple guard schemas
  | dict label guard key item =>
    obtain ⟨passes, members, rfl⟩ := admits
    have distinct := ((Value.wellFormed_object members).1 sound).1
    simp only [checkEffective, judge_of_isPass passes]
    exact collects_checkDict guard distinct fun name => kept key name _
  | scalar | custom | enumeration | union | intersection | literal | instanceOf | lazy | dynamic =>
    exact container.elim

/-- Nothing at all is reported exactly if nothing is reported at any place. -/
theorem silent_iff {places : List Segment} {report : Segment → Run (List Failure)} :
    (∃ lists, places.mapM report = .ok lists ∧ lists.flatten = []) ↔
      ∀ place ∈ places, report place = .ok [] := by
  -- Lists that come to nothing when put together are empty each.
  constructor
  · intro silent place among
    obtain ⟨lists, ran, nothing⟩ := silent
    obtain ⟨list, found, reported⟩ := exists_related (mapM_eq_ok_iff.1 ran) place among
    rw [reported, List.flatten_eq_nil_iff.1 nothing list found]
  · intro silent
    refine ⟨places.map fun _ => [], mapM_eq_ok_iff.2 ?_, by simp⟩
    rw [List.forall₂_map_right_iff, List.forall₂_same]
    exact silent

/-- A container loses and invents no failure. If it lets in what it checks, which is the value with
defaults applied, then it accepts exactly if nothing is reported at any of its places; and it refuses
exactly with all that is reported, place after place, each failure one step further in and told from the
container, and under no type of its own. -/
theorem failures_of_places (depth : Nat) {entered : Value} (node : NamesDistinct schema)
    (sound : value.WellFormed) (effective : schema.effective value parent = entered)
    (container : schema.IsContainer) (admits : schema.Admits entered parent) :
    ((∃ accepted, validate links (depth + 1) schema value parent = .ok (.ok accepted)) ↔
      ∀ step ∈ schema.steps entered,
        report (validate links depth) schema entered step = .ok []) ∧
    ∀ error, validate links (depth + 1) schema value parent = .ok (.error error) ↔
      error.override = none ∧ ∃ reports, List.Forall₂ (fun step failures =>
          report (validate links depth) schema entered step = .ok failures)
        (schema.steps entered) reports ∧ error.failures = reports.flatten := by
  -- The step collects the reports of all places, and collecting is deciding.
  have soundEntered := effective ▸ wellFormed_effective node.defaults sound parent
  have collects : Collects (checkEffective links (validate links depth) schema entered parent) _ :=
    collects_checkEffective container admits node.declared soundEntered
      fun _ _ _ _ checked => (kept_validate checked).of_string
  rw [validate, effective]
  refine ⟨collects.accepts_iff.trans silent_iff, fun error => ?_⟩
  rw [collects.refuses_iff]
  simp only [mapM_eq_ok_iff]

/-- A truth value. -/
def flag : Schema :=
  .scalar ⟨"boolean", none⟩ (Registry.hasTag .boolean)

/-- A ticket with truth values, all of which may be absent: one is null by default, and one is computed
as undefined. -/
def ticket : Schema :=
  .shape ⟨"ticket", some (.fields [("seat", .value .null), ("gate", .compute fun _ => .undefined)])⟩
    .sparse (Registry.hasTag .object)
    [("gate", flag), ("seat", flag), ("stops", .list ⟨"[boolean]", none⟩ (Registry.hasTag .array) flag)]

/-- The names of a ticket and of its default are distinct. -/
theorem namesDistinct_ticket : NamesDistinct ticket := by
  -- There are few names, so they are compared one by one.
  refine ⟨by simp [declaredNames, ticket, Members.names], fun defaults given => ?_⟩
  cases given
  refine .fields (by simp [Members.names]) fun name default among => ?_
  simp only [List.mem_cons, Prod.mk.injEq, List.not_mem_nil, or_false] at among
  rcases among with ⟨_, rfl⟩ | ⟨_, rfl⟩
  · exact .value trivial
  · exact .compute fun _ => Value.wellFormed_undefined

/-- A ticket reports the name that it does not know, then two stops, then the seat that it has by
default, and it does not look for a gate. -/
theorem failures_of_places_ticket : ∃ error,
    validate [] 3 ticket (.object [("class", .null),
        ("stops", .array [.null, .bool true, .null])]) none = .ok (.error error) ∧
      error.failures.map Failure.path =
        [[.key "class"], [.key "stops", .index 0], [.key "stops", .index 2], [.key "seat"]] ∧
      error.override = none ∧ ∃ reports, List.Forall₂ (fun step failures =>
          report (validate [] 2) ticket (.object [("class", .null),
            ("stops", .array [.null, .bool true, .null])]) step = .ok failures)
        [.key "class", .key "stops", .key "seat"] reports ∧ error.failures = reports.flatten := by
  -- The run is carried out, and its failures are those of the places.
  have sound : (Value.object [("class", .null),
      ("stops", .array [.null, .bool true, .null])]).WellFormed := by
    simp [Value.WellFormed, Value.AllWellFormed, Value.MembersWellFormed, Members.names]
  obtain ⟨error, refused, paths⟩ : ∃ error,
      validate [] 3 ticket (.object [("class", .null),
          ("stops", .array [.null, .bool true, .null])]) none = .ok (.error error) ∧
        error.failures.map Failure.path =
          [[.key "class"], [.key "stops", .index 0], [.key "stops", .index 2], [.key "seat"]] :=
    ⟨_, rfl, rfl⟩
  exact ⟨error, refused, paths, ((failures_of_places 2 namesDistinct_ticket sound rfl
    trivial ⟨rfl, _, rfl⟩).2 error).1 refused⟩

end Schema

end Conform
