import Mathlib.Logic.Relation
import Conform.Schema.Node
import Conform.Schema.Registry

/-! What lies below a node: its parts, the targets of references, and whatever may be selected. -/

namespace Conform.Schema

/-- A node leads to every node that it may hand a value on to. -/
inductive Leads (links : Links) : Schema → Schema → Prop where
  | field {label mode guard name schema} {fields : List (String × Schema)}
      (declared : (name, schema) ∈ fields) : Leads links (shape label mode guard fields) schema
  | element {label guard element} : Leads links (list label guard element) element
  | item {label guard schema} {items : List Schema} (among : schema ∈ items) :
      Leads links (tuple label guard items) schema
  | key {label guard key item} : Leads links (dict label guard key item) key
  | entry {label guard key item} : Leads links (dict label guard key item) item
  | alternative {label schema} {alternatives : List Schema} (among : schema ∈ alternatives) :
      Leads links (union label alternatives) schema
  | part {label schema} {parts : List Schema} (among : schema ∈ parts) :
      Leads links (intersection label parts) schema
  | target {reference target} (known : links.get? reference = some target) :
      Leads links (lazy reference) target
  -- Any value may come by, so everything that may be selected counts.
  | selected {label select} (value : Value) (parent : Option Value) :
      Leads links (dynamic label select) (select value parent)

/-- A node reaches itself and everything that it leads to in any number of steps. -/
abbrev Reaches (links : Links) : Schema → Schema → Prop :=
  Relation.ReflTransGen (Leads links)

/-- A property of every node that can be reached. -/
def Throughout (links : Links) (property : Schema → Prop) (schema : Schema) : Prop :=
  ∀ node, Reaches links schema node → property node

namespace Throughout

variable {links : Links} {property other : Schema → Prop} {schema next : Schema}

/-- The node itself has the property. -/
theorem here (holds : Throughout links property schema) : property schema :=
  holds schema .refl

/-- Whatever a node leads to has the property throughout. -/
theorem below (holds : Throughout links property schema) (leads : Leads links schema next) :
    Throughout links property next :=
  fun node reached => holds node (.head leads reached)

/-- A property that follows from another at every node follows throughout. -/
theorem imp (holds : Throughout links property schema)
    (follows : ∀ node, property node → other node) : Throughout links other schema :=
  fun node reached => follows node (holds node reached)

/-- A property holds throughout if the node has it and everything that the node leads to has it
throughout. -/
theorem of_below (here : property schema)
    (below : ∀ next, Leads links schema next → Throughout links property next) :
    Throughout links property schema := by
  -- What is reached is the node itself, or it is reached from what the node leads to.
  intro node reached
  rcases Relation.ReflTransGen.cases_head reached with rfl | ⟨next, leads, reached⟩
  · exact here
  · exact below next leads node reached

/-- A property holds throughout if it belongs to a set of nodes that no step leaves. -/
theorem of_closed (among : Schema → Prop) (start : among schema)
    (closed : ∀ node next, among node → Leads links node next → among next)
    (holds : ∀ node, among node → property node) : Throughout links property schema := by
  -- The steps that reach a node never leave the set.
  intro node reached
  refine holds node ?_
  induction reached with
  | refl => exact start
  | tail _ leads ih => exact closed _ _ ih leads

end Throughout

/-- No schema of a list is higher than the highest. -/
theorem height_le_heightOfAll {schemas : List Schema} :
    ∀ schema ∈ schemas, schema.height ≤ heightOfAll schemas := by
  -- The greatest height of a list is that of its first schema or of one behind it.
  induction schemas with
  | nil => simp
  | cons first rest ih =>
    intro schema among
    rw [heightOfAll]
    rcases List.mem_cons.1 among with rfl | later
    · omega
    · have := ih schema later
      omega

/-- No schema of a field is higher than the highest. -/
theorem height_le_heightOfFields {fields : List (String × Schema)} :
    ∀ field ∈ fields, field.2.height ≤ heightOfFields fields := by
  -- The highest is the first or among the others.
  induction fields with
  | nil => simp
  | cons first rest ih =>
    intro field among
    rw [heightOfFields]
    rcases List.mem_cons.1 among with rfl | later
    · omega
    · have := ih field later
      omega

/-- Whether a node gives each place of an array a schema of its own. -/
def IsTuple : Schema → Prop
  | tuple _ _ _ => True
  | _ => False

/-- The predicates that a node asks, be it about a value or before it looks into a container. -/
def predicates : Schema → List Predicate
  | scalar _ predicate => [predicate]
  | custom _ predicate => [predicate]
  | shape _ _ guard _ => [guard]
  | list _ guard _ => [guard]
  | tuple _ guard _ => [guard]
  | dict _ guard _ _ => [guard]
  | _ => []

/-- The names that a node declares. Fields form a map, so proofs may assume that the names of every
node are distinct. -/
def declaredNames : Schema → List String
  | shape _ _ _ fields => Members.names fields
  | _ => []

/-- Containers are guarded by the built-in types of objects and arrays. -/
def BuiltinGuard : Schema → Prop
  | shape _ _ guard _ => Registry.builtin.get? "object" = some guard
  | dict _ guard _ _ => Registry.builtin.get? "object" = some guard
  | list _ guard _ => Registry.builtin.get? "array" = some guard
  | tuple _ guard _ => Registry.builtin.get? "array" = some guard
  | _ => True

/-- The built-in type of objects lets every object in. -/
theorem isPass_of_builtin_object {guard : Predicate}
    (builtin : Registry.builtin.get? "object" = some guard) (members : Members Value)
    (parent : Option Value) : (guard (.object members) parent).isPass = true := by
  -- The registry finds the test for the tag of objects, which every object passes.
  have known : Registry.builtin.get? "object" = some (Registry.hasTag .object) := rfl
  rw [known, Option.some.injEq] at builtin
  rw [← builtin]
  rfl

/-- The built-in type of arrays lets every array in. -/
theorem isPass_of_builtin_array {guard : Predicate}
    (builtin : Registry.builtin.get? "array" = some guard) (items : List Value)
    (parent : Option Value) : (guard (.array items) parent).isPass = true := by
  -- The registry finds the test for the tag of arrays, which every array passes.
  have known : Registry.builtin.get? "array" = some (Registry.hasTag .array) := rfl
  rw [known, Option.some.injEq] at builtin
  rw [← builtin]
  rfl

/-- Whether no value that goes through the parts of an intersection is filled up on its way. -/
def PartsKeepTuplesOut (links : Links) : Schema → Prop
  | intersection _ parts => ∀ part ∈ parts, Throughout links (fun node => ¬ IsTuple node) part
  | _ => True

end Conform.Schema
