import Conform.Proofs.Schema.Demands
import Conform.Proofs.Value.Quoting

/-! Descriptions are compiled exactly if they are well-formed, and are otherwise refused for their
first defect. -/

namespace Conform

namespace Description

/-- What passes from the parts of a description to the description itself holds of all of them. -/
@[elab_as_elim]
theorem holds_of_parts {motive : Description → Prop}
    (shorthand : ∀ text, motive (.shorthand text))
    (items : ∀ items, (∀ item ∈ items, motive item) → motive (.items items))
    (shape : ∀ fields : Members Description, (∀ name item, (name, item) ∈ fields → motive item) →
      motive (.shape fields))
    (predicate : ∀ predicate, motive (.predicate predicate))
    (node : ∀ schema, motive (.node schema))
    (struct : ∀ source schema, motive source → motive (.struct source schema))
    (value : ∀ value, motive (.value value)) (description : Description) : motive description := by
  -- The lists of items and of fields are gone through from their ends.
  refine @Description.rec motive (fun items => ∀ item ∈ items, motive item)
    (fun fields => ∀ name item, (name, item) ∈ fields → motive item) (fun field => motive field.2)
    shorthand items shape predicate node struct value ?_ ?_ ?_ ?_ ?_ description
  · simp
  · intro first rest head tail item among
    rcases List.mem_cons.1 among with rfl | later
    · exact head
    · exact tail item later
  · simp
  · intro first rest head tail name item declared
    rcases List.mem_cons.1 declared with rfl | later
    · exact head
    · exact tail name item later
  · intro name item holds
    exact holds

/-- A description consists of itself and of what its items or fields consist of. -/
inductive Within (part : Description) : Description → Prop where
  | here : Within part part
  | item {item : Description} {items : List Description} (among : item ∈ items)
      (inside : Within part item) : Within part (.items items)
  | field {name : String} {item : Description} {fields : Members Description}
      (declared : (name, item) ∈ fields) (inside : Within part item) : Within part (.shape fields)

/-- What is asked of a part by itself: that a list has items and the type of arrays is there, that the
type of objects is there for a shape, that the names of a shorthand are there, and that it is no plain
value. -/
def Acceptable (registry : Registry) : Description → Prop
  | items parts => parts ≠ [] ∧ registry.contains "array" = true
  | shape _ => registry.contains "object" = true
  | shorthand text => (Shorthand.Formula.ofText text.toList).Registered registry
  | value _ => False
  | predicate _ => True
  | node _ => True
  | struct _ _ => True

/-- A description is well-formed if all its parts are acceptable. -/
def WellFormed (registry : Registry) (description : Description) : Prop :=
  ∀ part, Within part description → part.Acceptable registry

mutual

/-- The demands of a description in their order: those of its parts from left to right, then the type
that guards the container. -/
def demands : Description → List Demand
  | shorthand text => (Shorthand.Formula.ofText text.toList).names.map .type
  | items [] => [.meaning (items [])]
  -- The guard comes last: it is looked up once the parts are built.
  | items parts => itemDemands parts ++ [.type "array"]
  | shape fields => fieldDemands fields ++ [.type "object"]
  | value v => [.meaning (value v)]
  | predicate _ => []
  | node _ => []
  | struct _ _ => []
termination_by structural description => description

/-- The demands of items from left to right. -/
def itemDemands : List Description → List Demand
  | [] => []
  | item :: rest => demands item ++ itemDemands rest
termination_by structural items => items

/-- The demands of fields from left to right. -/
def fieldDemands : List (String × Description) → List Demand
  | [] => []
  | (_, item) :: rest => demands item ++ fieldDemands rest
termination_by structural fields => fields

end

/-- The demands of items are put one item after another. -/
theorem itemDemands_eq (items : List Description) : itemDemands items = items.flatMap demands := by
  -- The demands follow the list of items.
  induction items with
  | nil => rfl
  | cons item rest ih => rw [itemDemands, ih, List.flatMap_cons]

/-- The demands of fields are put one field after another. -/
theorem fieldDemands_eq (fields : Members Description) :
    fieldDemands fields = fields.flatMap fun field => demands field.2 := by
  -- The demands follow the list of fields.
  induction fields with
  | nil => rfl
  | cons field rest ih => rw [fieldDemands, ih, List.flatMap_cons]

variable {registry : Registry}

/-- A list is well-formed if it has items, the type of arrays is there, and its items are. -/
theorem wellFormed_items {parts : List Description} : (items parts).WellFormed registry ↔
    (parts ≠ [] ∧ registry.contains "array" = true) ∧
      ∀ item ∈ parts, item.WellFormed registry := by
  -- A part of the list is the list itself or a part of one of its items.
  constructor
  · intro wellFormed
    exact ⟨wellFormed _ .here, fun item among part inside => wellFormed part (.item among inside)⟩
  · intro wellFormed part within
    obtain ⟨acceptable, each⟩ := wellFormed
    cases within with
    | here => exact acceptable
    | item among inside => exact each _ among part inside

/-- A shape is well-formed if the type of objects is there and its fields are well-formed. -/
theorem wellFormed_shape {fields : Members Description} : (shape fields).WellFormed registry ↔
    registry.contains "object" = true ∧
      ∀ name item, (name, item) ∈ fields → item.WellFormed registry := by
  -- A part of the shape is the shape itself or a part of one of its fields.
  constructor
  · intro wellFormed
    exact ⟨wellFormed _ .here, fun name item declared part inside =>
      wellFormed part (.field declared inside)⟩
  · intro wellFormed part within
    obtain ⟨acceptable, each⟩ := wellFormed
    cases within with
    | here => exact acceptable
    | field declared inside => exact each _ _ declared part inside

/-- A description without items and fields is well-formed if it is acceptable itself. -/
theorem wellFormed_of_whole {description : Description}
    (whole : ∀ part, Within part description → part = description) :
    description.WellFormed registry ↔ description.Acceptable registry := by
  -- There is no part but the description itself.
  constructor
  · intro wellFormed
    exact wellFormed description .here
  · intro acceptable part within
    exact whole part within ▸ acceptable

/-- The demands of a description are met exactly if it is well-formed. -/
theorem demands_met_iff (registry : Registry) (description : Description) :
    (∀ demand ∈ description.demands, demand.Met registry) ↔ description.WellFormed registry := by
  -- Demands and parts follow the description alike, so its parts are taken one sort at a time.
  induction description using holds_of_parts with
  | shorthand text =>
    rw [wellFormed_of_whole (by intro part within; cases within; rfl), Acceptable,
      ← Shorthand.Formula.registered_iff, demands]
    simp [Demand.Met]
  | items parts ih =>
    rw [wellFormed_items]
    cases parts with
    | nil => simp [demands, Demand.Met]
    | cons first rest =>
      -- The demands of the items come first, and the type of arrays is the last one.
      rw [demands, itemDemands_eq]
      · simp only [List.mem_append, List.mem_flatMap, List.mem_singleton]
        constructor
        · intro met
          refine ⟨⟨List.cons_ne_nil first rest, met _ (.inr rfl)⟩, fun item among => ?_⟩
          exact (ih item among).1 fun demand found => met demand (.inl ⟨item, among, found⟩)
        · intro wellFormed demand found
          obtain ⟨⟨_, array⟩, each⟩ := wellFormed
          rcases found with ⟨item, among, found⟩ | rfl
          · exact (ih item among).2 (each item among) demand found
          · exact array
      · simp
  -- The demands of the fields come first, and the type of objects is the last one.
  | shape fields ih =>
    rw [wellFormed_shape, demands, fieldDemands_eq]
    simp only [List.mem_append, List.mem_flatMap, List.mem_singleton]
    constructor
    · intro met
      refine ⟨met _ (.inr rfl), fun name item declared => ?_⟩
      exact (ih name item declared).1 fun demand found =>
        met demand (.inl ⟨(name, item), declared, found⟩)
    · intro wellFormed demand found
      obtain ⟨object, each⟩ := wellFormed
      rcases found with ⟨⟨name, item⟩, declared, found⟩ | rfl
      · exact (ih name item declared).2 (each name item declared) demand found
      · exact object
  -- What is finished already demands nothing, and is acceptable.
  | predicate | node | struct =>
    rw [wellFormed_of_whole (by intro part within; cases within; rfl)]
    simp [demands, Acceptable]
  -- A plain value has no meaning, so its demand is never met.
  | value given =>
    rw [wellFormed_of_whole (by intro part within; cases within; rfl)]
    simp [demands, Acceptable, Demand.Met]

/-- Only an empty list or a plain value, somewhere within a description, is asked for a meaning. -/
theorem of_meaning_demanded {part description : Description}
    (demanded : .meaning part ∈ description.demands) :
    Within part description ∧ (part = items [] ∨ ∃ given, part = value given) := by
  -- Containers with something in them pass the question on to what they are made of.
  induction description using holds_of_parts with
  | shorthand text => simp [demands] at demanded
  | items parts ih =>
    cases parts with
    | nil =>
      simp only [demands, List.mem_singleton, Demand.meaning.injEq] at demanded
      exact ⟨demanded ▸ .here, .inl demanded⟩
    | cons first rest =>
      rw [demands, itemDemands_eq] at demanded
      · simp only [List.mem_append, List.mem_flatMap, List.mem_singleton, reduceCtorEq,
          or_false] at demanded
        -- The type of arrays is demanded as a type, so the question comes from an item.
        obtain ⟨item, among, found⟩ := demanded
        obtain ⟨inside, sort⟩ := ih item among found
        exact ⟨.item among inside, sort⟩
      · simp
  | shape fields ih =>
    rw [demands, fieldDemands_eq] at demanded
    simp only [List.mem_append, List.mem_flatMap, List.mem_singleton, reduceCtorEq,
      or_false] at demanded
    -- The type of objects is demanded as a type, so the question comes from a field.
    obtain ⟨⟨name, item⟩, declared, found⟩ := demanded
    obtain ⟨inside, sort⟩ := ih name item declared found
    exact ⟨.field declared inside, sort⟩
  | predicate | node | struct => simp [demands] at demanded
  | value given =>
    simp only [demands, List.mem_singleton, Demand.meaning.injEq] at demanded
    exact ⟨demanded ▸ .here, .inr ⟨given, demanded⟩⟩

end Description

namespace Scope

variable {scope : Scope}

/-- Items are compiled one after another, without a default. -/
theorem compileItems_eq (scope : Scope) (items : List Description) :
    scope.compileItems items = items.mapM (scope.compile none) := by
  -- Compilation follows the list of items.
  induction items with
  | nil => rfl
  | cons item rest ih => rw [compileItems, ih, List.mapM_cons]

/-- Fields are compiled one after another, without a default. -/
theorem compileFields_eq (scope : Scope) (fields : Members Description) :
    scope.compileFields fields =
      fields.mapM fun field => do return (field.1, ← scope.compile none field.2) := by
  -- Compilation follows the list of fields.
  induction fields with
  | nil => rfl
  | cons field rest ih =>
    rw [compileFields, ih, List.mapM_cons]
    simp only [bind_assoc, pure_bind]

/-- Several items are compiled to a tuple. -/
theorem compile_several (scope : Scope) (defaults : Option Defaults)
    (first next : Description) (more : List Description) :
    scope.compile defaults (.items (first :: next :: more)) =
      (do scope.tuple (← (first :: next :: more).mapM (scope.compile none)) defaults) := by
  rw [compile, compileItems_eq]
  -- The list is neither empty nor made of a single item.
  · simp
  · simp

/-- Compiling a description obeys its demands. -/
theorem obeys_compile (scope : Scope) (defaults : Option Defaults) (description : Description) :
    Obeys scope description.demands (scope.compile defaults description) := by
  -- A description asks first for all that its parts demand, and last for a type of its own.
  induction description using Description.holds_of_parts generalizing defaults with
  | shorthand text =>
    rw [compile, Shorthand.shorthand_eq_formula, Description.demands]
    exact Shorthand.obeys_formula scope _ defaults
  | items parts ih =>
    -- A single item is compiled to a list and several are to a tuple, which demand the same type.
    have each : Obeys scope (parts.flatMap Description.demands)
        (parts.mapM (scope.compile none)) :=
      .mapM fun item among => ih item among none
    match parts with
    | [] => exact .refuse id
    | [element] =>
      rw [Description.demands, Description.itemDemands_eq, List.flatMap_singleton, compile]
      · exact (ih element List.mem_cons_self none).bind fun made => obeys_list scope made defaults
      · simp
    | first :: next :: more =>
      rw [compile_several, Description.demands, Description.itemDemands_eq]
      · exact each.bind fun made => obeys_tuple scope made defaults
      · simp
  | shape fields ih =>
    rw [compile, compileFields_eq, Description.demands, Description.fieldDemands_eq]
    refine Obeys.bind (.mapM fun field declared => ?_)
      fun made => obeys_shape scope .exact made defaults
    exact (ih field.1 field.2 declared none).andReturn _
  | predicate | node | struct => exact .done _
  | value given => exact .refuse id

/-- If no date of another than a mail year would have to be quoted, a description compiles exactly if
it is well-formed. Otherwise the first of its demands that is not met is reported: a name that is not
registered, or a part that means no schema, as it is quoted. -/
theorem compile_blames_first_defect (scope : Scope) (defaults : Option Defaults)
    (description : Description)
    (writable : ∀ given, Description.Within (.value given) description →
      ∀ instant, given.Quotes instant → instant.InMailYears) :
    ((∃ schema, scope.compile defaults description = .ok schema) ↔
      description.WellFormed scope.registry) ∧
    (¬ description.WellFormed scope.registry →
      ∃ before demand after, description.demands = before ++ demand :: after ∧
        (∀ earlier ∈ before, earlier.Met scope.registry) ∧
        ((∃ name, demand = .type name ∧ scope.registry.contains name = false ∧
            scope.compile defaults description = .error (.invalidType name)) ∨
          ∃ part quoted, demand = .meaning part ∧ part.toText? scope.links = some quoted ∧
            scope.compile defaults description = .error (.invalidSchema quoted))) := by
  have obeys := obeys_compile scope defaults description
  rw [← Description.demands_met_iff]
  -- A description with a defect has a demand that is not met, and the first of them is reported.
  refine ⟨obeys.exists_ok_iff, fun defective => ?_⟩
  obtain ⟨before, demand, after, order, met, unmet, failed⟩ := obeys.exists_error defective
  refine ⟨before, demand, after, order, met, ?_⟩
  cases demand with
  | type name => exact .inl ⟨name, rfl, Bool.eq_false_iff.2 unmet, failed⟩
  | meaning part =>
    have demanded : .meaning part ∈ description.demands := by simp [order]
    obtain ⟨inside, sort⟩ := Description.of_meaning_demanded demanded
    -- An empty list is quoted as nothing, and a value has a text.
    have text : ∃ quoted, part.toText? scope.links = some quoted := by
      rcases sort with rfl | ⟨given, rfl⟩
      · exact ⟨_, rfl⟩
      · exact given.exists_text (writable given inside)
    obtain ⟨quoted, text⟩ := text
    refine .inr ⟨part, quoted, rfl, text, ?_⟩
    rw [failed, Demand.error, invalid, text]

/-- A shape with a name that is misspelt and, after it, a number that means no schema. -/
def misspelt : Description :=
  .shape [("name", .shorthand "strnig"), ("count", .value (.ofInt 42))]

/-- Of two defects the first is blamed. -/
theorem compile_blames_first_defect_misspelt :
    (Scope.mk Registry.builtin []).compile none misspelt = .error (.invalidType "strnig") := by
  -- The misspelt name is demanded first, before a number that means nothing.
  have absent : ¬ Demand.Met Registry.builtin (.type "strnig") := by
    show ¬ Registry.builtin.contains "strnig" = true
    decide
  have order : misspelt.demands =
      [.type "strnig", .meaning (.value (.ofInt 42)), .type "object"] := rfl
  obtain ⟨_, blames⟩ := compile_blames_first_defect (Scope.mk Registry.builtin []) none misspelt
    (fun given inside instant quotes => by
      cases inside with
      | field declared inside =>
        simp only [List.mem_cons, Prod.mk.injEq, List.not_mem_nil, or_false] at declared
        rcases declared with ⟨_, rfl⟩ | ⟨_, rfl⟩
        · cases inside
        · cases inside
          cases quotes)
  have defective : ¬ misspelt.WellFormed Registry.builtin := by
    rw [← Description.demands_met_iff]
    exact fun met => absent (met _ (by simp [order]))
  obtain ⟨before, demand, after, split, met, blamed⟩ := blames defective
  -- Nothing comes before the misspelt name, since that would have to be met.
  rw [order] at split
  cases before with
  | cons earlier rest =>
    simp only [List.cons_append, List.cons.injEq] at split
    obtain ⟨rfl, _⟩ := split
    exact absurd (met _ List.mem_cons_self) absent
  | nil =>
    cases split
    rcases blamed with ⟨name, same, _, failed⟩ | ⟨_, _, same, _⟩
    · cases same
      exact failed
    · cases same

end Scope

end Conform
