import Conform.Schema.Failure
import Conform.Schema.Node
import Conform.Value.Equality
import Conform.Value.Text

/-! Validation gives the value back with defaults filled in, or lists every place that does not fit. -/

namespace Conform

/-- Why a validation cannot go on. -/
inductive Stop where
  /-- It has met a reference whose target is not known yet. -/
  | unresolved (reference : Nat)
  /-- It has gone deeper than it was allowed to. -/
  | tooDeep
  /-- It has to turn a date into text that has none. -/
  | unprintable
deriving DecidableEq

/-- A computation that may have to stop. -/
abbrev Run (α : Type) := Except Stop α

/-- The value as it was accepted, or the failures. -/
abbrev Outcome := Except ValidationError Value

/-- Checks a value, standing in a container if there is one, against a schema. -/
abbrev Checker := Schema → Value → Option Value → Run Outcome

/-- A place of a container that is looked at: what is declared for it, what is found there, and
whether anything stood there before defaults were filled in. -/
structure Slot where
  segment : Segment
  declared : Option Schema
  value : Value
  present : Bool

namespace Slot

/-- Checks the value of a slot; one for which nothing is declared should be undefined. -/
def visit (check : Checker) (container : Value) (slot : Slot) :
    Run (Except (List Failure) (Slot × Value)) :=
  match slot.declared with
  | none => .ok (.error [⟨container, [slot.segment], slot.value, none, "undefined"⟩])
  -- What the check reports is moved one step further out, and told from the container.
  | some schema => do
    match ← check schema slot.value (some container) with
    | .ok value => return .ok (slot, value)
    | .error error => return .error (error.nestedFailures slot.segment container)

end Slot

/-- All results of the slots, or all their failures. -/
def gather {α : Type} (findings : List (Except (List Failure) α)) :
    Except ValidationError (List α) :=
  -- Every slot is looked at, so that no failure hides behind another one.
  let failures := findings.flatMap fun finding =>
    match finding with
    | .ok _ => []
    | .error failures => failures
  match ValidationError.ofFailures? failures with
  | some error => .error error
  | none => .ok (findings.filterMap Except.toOption)

/-- Checks every slot. -/
def visitAll (check : Checker) (container : Value) (slots : List Slot) :
    Run (Except ValidationError (List (Slot × Value))) := do
  return gather (← slots.mapM (Slot.visit check container))

/-- The value to check under a declared name: the one that is there, or else its default. -/
def fieldValue (present : Option Value) (defaults : Option Defaults) (name : String)
    (parent : Value) : Value :=
  -- A name that holds undefined is treated as one that is absent.
  match present, defaults with
  | some value, some defaults =>
    if value.isUndefined then defaults.resolveField name parent else value
  | some value, none => value
  | none, some defaults => defaults.resolveField name parent
  | none, none => .undefined

namespace Schema

/-- The slot of a declared name. -/
def fieldSlot (defaults : Option Defaults) (members : Members Value) (container : Value)
    (field : String × Schema) : Slot :=
  let present := Members.get? members field.1
  ⟨.key field.1, some field.2, fieldValue present defaults field.1 container, present.isSome⟩

/-- The slot of a name that the object holds. -/
def memberSlot (defaults : Option Defaults) (fields : Members Schema) (container : Value)
    (member : String × Value) : Slot :=
  match Members.get? fields member.1 with
  | some schema =>
    ⟨.key member.1, some schema, fieldValue (some member.2) defaults member.1 container, true⟩
  -- A value without a declaration is reported as it is, and no default applies.
  | none => ⟨.key member.1, none, member.2, true⟩

/-- The slots of a shape: the names of the object and then the declared names that it lacks, or, if
other names are free, the declared names alone. -/
def shapeSlots (mode : ShapeMode) (defaults : Option Defaults) (fields : Members Schema)
    (members : Members Value) : List Slot :=
  let container := Value.object members
  let absent := (fields.filter fun field => !Members.contains members field.1).map
    (fieldSlot defaults members container)
  match mode with
  -- Undeclared names are not looked at.
  | .extensible => fields.map (fieldSlot defaults members container)
  | .exact => members.map (memberSlot defaults fields container) ++ absent
  | .sparse =>
    members.map (memberSlot defaults fields container) ++
      -- Absent names may stay absent, but one that holds undefined is looked at.
      absent.filter fun slot => !slot.value.isUndefined

/-- The members that checked slots give: an absent name whose value stays undefined is left out. -/
def checkedMembers (results : List (Slot × Value)) : List (String × Value) :=
  -- A name that was there stays there, even if it holds undefined.
  results.filterMap fun (slot, value) =>
    if slot.present || !value.isUndefined then some (slot.segment.toText, value) else none

/-- Checks an object against a shape. -/
def checkShape (check : Checker) (mode : ShapeMode) (defaults : Option Defaults)
    (fields : Members Schema) (members : Members Value) : Run Outcome := do
  match ← visitAll check (.object members) (shapeSlots mode defaults fields members) with
  | .error error => return .error error
  | .ok results =>
    -- Names that were there keep their places, and new ones follow.
    let kept := if mode = .extensible then members else []
    return .ok (.object (Members.insertAll kept (checkedMembers results)))

/-- The slots of a list. -/
def listSlots (element : Schema) (items : List Value) : List Slot :=
  items.mapIdx fun place item => ⟨.index place, some element, item, true⟩

/-- The slots of a tuple: as many as it has items or as the array has elements. -/
def tupleSlots (schemas : List Schema) (items : List Value) : List Slot :=
  -- A missing element counts as undefined, and one too many has no declaration.
  (List.range (max items.length schemas.length)).map fun place =>
    ⟨.index place, schemas[place]?, items[place]?.getD .undefined, place < items.length⟩

/-- Checks an array slot by slot. -/
def checkItems (check : Checker) (items : List Value) (slots : List Slot) : Run Outcome := do
  return (← visitAll check (.array items) slots).map fun results =>
    .array (results.map Prod.snd)

/-- The name that a checked key stands for. -/
def keyText (key : Value) : Run String :=
  -- Only a date outside of the years that texts can tell has no text.
  match key.toText? with
  | some text => .ok text
  | none => .error .unprintable

/-- Checks the key of a member and then its value. -/
def checkEntry (check : Checker) (key item : Schema) (container : Value)
    (entry : String × Value) : Run (Except (List Failure) (String × Value)) := do
  match ← check key (.string entry.1) (some container) with
  | .error error => return .error (error.nestedFailures (.key entry.1) container)
  | .ok accepted =>
    -- The value is reported under the name that the key schema has made of the key.
    let name ← keyText accepted
    match ← check item entry.2 (some container) with
    | .error error => return .error (error.nestedFailures (.key name) container)
    | .ok value => return .ok (name, value)

/-- Checks every member of an object. -/
def checkDict (check : Checker) (key item : Schema) (members : Members Value) : Run Outcome := do
  let findings ← members.mapM (checkEntry check key item (.object members))
  return (gather findings).map Value.ofPairs

/-- The first outcome that accepts, or else the error of the first alternative. -/
def firstAccepting (check : Schema → Run Outcome) :
    List Schema → Option ValidationError → Run (Except (Option ValidationError) Value)
  | [], first => .ok (.error first)
  | alternative :: rest, first => do
    match ← check alternative with
    | .ok value => return .ok value
    -- Of the errors only the first is kept.
    | .error error => firstAccepting check rest (first.or (some error))

/-- Passes a value through one part after another, each seeing what the one before has made of it. -/
def passThrough (check : Schema → Value → Run Outcome) : List Schema → Value → Run Outcome
  | [], value => .ok (.ok value)
  | part :: rest, value => do
    match ← check part value with
    | .ok passed => passThrough check rest passed
    | .error error => return .error error

/-- The error of a value that is not of the node's type. -/
def mismatch (schema : Schema) (value : Value) : ValidationError :=
  .single (Failure.ofValue value schema.label.type)

/-- Judges a value by a predicate alone. -/
def judge (verdict : Verdict) (value : Value) (expected : String) (fixed : Bool) : Outcome :=
  match verdict.failure? value expected fixed with
  | none => .ok value
  | some failure => .error (.single failure)

/-- The value that a node checks once its default has been applied: shapes that leave names free and
dictionaries lie over their default, and elsewhere the default stands in for what is undefined. -/
def effective (schema : Schema) (value : Value) (parent : Option Value) : Value :=
  match schema.defaults with
  | none => value
  | some defaults =>
    match schema with
    -- A default under an object adds the members that are missing.
    | shape _ .extensible _ _ => defaults.mergeUnder value
    | dict _ _ _ _ => defaults.mergeUnder value
    | _ => if value.isUndefined then defaults.resolve parent else value

/-- Checks an effective value, given how to check against schemas one step further on. -/
def checkEffective (links : Links) (check : Checker) (schema : Schema) (value : Value)
    (parent : Option Value) : Run Outcome :=
  match schema with
  | scalar label predicate => .ok (judge (predicate value parent) value label.type true)
  | custom label predicate => .ok (judge (predicate value parent) value label.type false)
  -- A guard sees the value without its container, and what it lets in may still be of another kind.
  | shape label mode guard fields =>
    match judge (guard value none) value label.type true, value with
    | .error error, _ => .ok (.error error)
    | .ok _, .object members => checkShape check mode label.defaults fields members
    | .ok _, _ => .ok (.error (schema.mismatch value))
  | list label guard element =>
    match judge (guard value none) value label.type true, value with
    | .error error, _ => .ok (.error error)
    | .ok _, .array items => checkItems check items (listSlots element items)
    | .ok _, _ => .ok (.error (schema.mismatch value))
  | tuple label guard schemas =>
    match judge (guard value none) value label.type true, value with
    | .error error, _ => .ok (.error error)
    | .ok _, .array items => checkItems check items (tupleSlots schemas items)
    | .ok _, _ => .ok (.error (schema.mismatch value))
  | dict label guard key item =>
    match judge (guard value none) value label.type true, value with
    | .error error, _ => .ok (.error error)
    | .ok _, .object members => checkDict check key item members
    | .ok _, _ => .ok (.error (schema.mismatch value))
  | enumeration _ values =>
    .ok (if values.any (Value.includes · value) then .ok value else .error (schema.mismatch value))
  -- A union without alternatives refuses under its own type.
  | union label alternatives => do
    match ← firstAccepting (check · value parent) alternatives none with
    | .ok accepted => return .ok accepted
    | .error first =>
      return .error ((first.getD (schema.mismatch value)).retype label.type)
  -- The first part that refuses ends it.
  | intersection label parts => do
    match ← passThrough (check · · parent) parts value with
    | .ok passed => return .ok passed
    | .error error => return .error (error.retype label.type)
  | literal _ expected =>
    .ok (if expected.strictlyEquals value then .ok value else .error (schema.mismatch value))
  | instanceOf _ payload =>
    .ok (match value with
      | .host owned =>
        if owned.payload = payload then .ok value else .error (schema.mismatch value)
      | _ => .error (schema.mismatch value))
  -- A reference passes the question on, with nothing of its own.
  | lazy reference =>
    match links.get? reference with
    | some target => check target value parent
    | none => .error (.unresolved reference)
  | dynamic _ select => check (select value parent) value parent

/-- Checks a value at most so many steps deep. -/
def validate (links : Links) : Nat → Checker
  | 0, _, _, _ => .error .tooDeep
  | depth + 1, schema, value, parent =>
    -- Every step, to a part or along a reference, takes one of the depth.
    checkEffective links (validate links depth) schema (schema.effective value parent) parent

/-- How deep a validation may go. -/
def depthLimit : Nat := 10000

/-- Checks a value that stands in no container, and reports the error under the type of its root. -/
def validateRoot (links : Links) (schema : Schema) (value : Value) : Run Outcome := do
  return (← validate links depthLimit schema value none).mapError ValidationError.settle

end Schema

end Conform
