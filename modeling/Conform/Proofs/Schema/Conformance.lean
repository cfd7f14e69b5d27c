import Conform.Proofs.Schema.Coercion

/-! Conformance says which values a schema accepts, apart from how validation finds that out. -/

namespace Conform.Schema

/-- A value, standing in a container if there is one, conforms to a schema without defaults. -/
inductive Conforms (links : Links) : Schema → Value → Option Value → Prop where
  | scalar {label predicate value parent} (passes : (predicate value parent).isPass = true) :
      Conforms links (.scalar label predicate) value parent
  | custom {label predicate value parent} (passes : (predicate value parent).isPass = true) :
      Conforms links (.custom label predicate) value parent
  /-- Every name is declared, and every declared name conforms, an absent one as undefined. -/
  | exact {label guard parent} {fields : Members Schema} {members : Members Value}
      (known : ∀ name ∈ members.names, name ∈ fields.names)
      (each : ∀ name field, (name, field) ∈ fields →
        Conforms links field ((members.get? name).getD .undefined) (some (.object members))) :
      Conforms links (.shape label .exact guard fields) (.object members) parent
  /-- Every name is declared, and every declared name that is present conforms. -/
  | sparse {label guard parent} {fields : Members Schema} {members : Members Value}
      (known : ∀ name ∈ members.names, name ∈ fields.names)
      (each : ∀ name field value, (name, field) ∈ fields → members.get? name = some value →
        Conforms links field value (some (.object members))) :
      Conforms links (.shape label .sparse guard fields) (.object members) parent
  /-- Every declared name conforms, an absent one as undefined, and other names are free. -/
  | extensible {label guard parent} {fields : Members Schema} {members : Members Value}
      (each : ∀ name field, (name, field) ∈ fields →
        Conforms links field ((members.get? name).getD .undefined) (some (.object members))) :
      Conforms links (.shape label .extensible guard fields) (.object members) parent
  | list {label guard element parent} {items : List Value}
      (each : ∀ item ∈ items, Conforms links element item (some (.array items))) :
      Conforms links (.list label guard element) (.array items) parent
  /-- The array is not longer than the tuple, and every place conforms, a missing one as undefined. -/
  | tuple {label guard parent} {schemas : List Schema} {items : List Value}
      (fits : items.length ≤ schemas.length)
      (each : ∀ (place : Nat) schema, schemas[place]? = some schema →
        Conforms links schema (items[place]?.getD .undefined) (some (.array items))) :
      Conforms links (.tuple label guard schemas) (.array items) parent
  /-- Every name conforms as a text, and so does what it holds. -/
  | dict {label guard key item parent} {members : Members Value}
      (keys : ∀ name ∈ members.names,
        Conforms links key (.string name) (some (.object members)))
      (entries : ∀ name value, (name, value) ∈ members →
        Conforms links item value (some (.object members))) :
      Conforms links (.dict label guard key item) (.object members) parent
  | enumeration {label values listed value parent} (among : listed ∈ values)
      (included : listed.includes value = true) :
      Conforms links (.enumeration label values) value parent
  | union {label alternatives alternative value parent} (among : alternative ∈ alternatives)
      (conforms : Conforms links alternative value parent) :
      Conforms links (.union label alternatives) value parent
  | intersection {label parts value parent}
      (each : ∀ part ∈ parts, Conforms links part value parent) :
      Conforms links (.intersection label parts) value parent
  | literal {label expected value parent} (same : expected.strictlyEquals value = true) :
      Conforms links (.literal label expected) value parent
  | instanceOf {label owned parent} :
      Conforms links (.instanceOf label owned.payload) (.host owned) parent
  | lazy {reference target value parent} (known : links.get? reference = some target)
      (conforms : Conforms links target value parent) :
      Conforms links (.lazy reference) value parent
  | dynamic {label select value parent}
      (conforms : Conforms links (select value parent) value parent) :
      Conforms links (.dynamic label select) value parent

/-- A checker that returns accepts exactly the values that conform. -/
def Decides (links : Links) (check : Checker) (schema : Schema) : Prop :=
  ∀ value parent outcome, value.WellFormed → check schema value parent = .ok outcome →
    ((∃ accepted, outcome = .ok accepted) ↔ Conforms links schema value parent)

variable {links : Links} {check : Checker} {schema : Schema} {value : Value}
  {parent : Option Value} {accepted : Value} {error : ValidationError}

namespace Decides

variable (decides : Decides links check schema)

include decides

/-- What is accepted conforms. -/
theorem conforms (sound : value.WellFormed)
    (checked : check schema value parent = .ok (.ok accepted)) :
    Conforms links schema value parent :=
  (decides value parent _ sound checked).1 ⟨accepted, rfl⟩

/-- What is refused does not conform. -/
theorem not_conforms (sound : value.WellFormed)
    (checked : check schema value parent = .ok (.error error)) :
    ¬ Conforms links schema value parent := by
  intro conforms
  -- If it did, the same check would have accepted it.
  obtain ⟨accepted, same⟩ := (decides value parent _ sound checked).2 conforms
  cases same

end Decides

/-- Behind built-in guards, a node admits whatever conforms to it. -/
theorem Conforms.admits (conforms : Conforms links schema value parent)
    (builtin : BuiltinGuard schema) : schema.Admits value parent := by
  -- Only containers have guards, and the built-in ones let every container of the kind in.
  cases conforms with
  | scalar passes => exact passes
  | custom passes => exact passes
  | exact | sparse | extensible | dict =>
    exact ⟨isPass_of_builtin_object builtin _ none, _, rfl⟩
  | list | tuple => exact ⟨isPass_of_builtin_array builtin _ none, _, rfl⟩
  | enumeration among included => exact List.any_eq_true.2 ⟨_, among, included⟩
  | literal same => exact same
  | instanceOf => exact ⟨_, rfl, rfl⟩
  | union | intersection | lazy | dynamic => exact trivial

/-- Whatever a node admits conforms to it, if it judges values alone. -/
theorem conforms_of_admits (leaf : IsLeaf schema) (admits : schema.Admits value parent) :
    Conforms links schema value parent := by
  -- A node that judges values alone has one way to conform, which is what it admits.
  cases schema with
  | scalar => exact .scalar admits
  | custom => exact .custom admits
  | enumeration label values =>
    obtain ⟨listed, among, included⟩ := List.any_eq_true.1 admits
    exact .enumeration among included
  | literal => exact .literal admits
  | instanceOf label payload =>
    obtain ⟨owned, rfl, rfl⟩ := admits
    exact .instanceOf
  | shape | list | tuple | dict | union | intersection | lazy | dynamic => exact leaf.elim

section Objects

variable {label : Label} {mode : ShapeMode} {guard : Predicate} {fields : Members Schema}
  {members result : Members Value}

/-- An object that a shape accepts conforms to it. -/
theorem ShapeAccepts.conforms (accepts : ShapeAccepts check mode none fields members result)
    (decides : ∀ name field, (name, field) ∈ fields → Decides links check field)
    (sound : (Value.object members).WellFormed) :
    Conforms links (.shape label mode guard fields) (.object members) parent := by
  -- Every name that is examined has been found to conform.
  have examined : ∀ name field, (name, field) ∈ fields → ¬ Skips mode none members name →
      Conforms links field ((members.get? name).getD .undefined) (some (.object members)) := by
    intro name field declared notSkipped
    obtain ⟨value, checked, _⟩ := accepts.examined name field declared notSkipped
    rw [candidate_none] at checked
    exact (decides name field declared).conforms (sound.member name) checked
  cases mode with
  | exact =>
    exact .exact (accepts.known (by simp)) fun name field declared =>
      examined name field declared (by simp [Skips])
  | sparse =>
    -- A name that is present is not skipped.
    refine .sparse (accepts.known (by simp)) fun name field value declared held => ?_
    have present : name ∈ members.names := Members.mem_names (Members.mem_of_get? held)
    have conforms := examined name field declared fun skips => skips.2.1 present
    rwa [held, Option.getD_some] at conforms
  | extensible =>
    exact .extensible fun name field declared => examined name field declared (by simp [Skips])

/-- Every name that a conforming object holds is declared, unless other names are free. -/
theorem Conforms.known
    (conforms : Conforms links (.shape label mode guard fields) (.object members) parent)
    (strict : mode ≠ .extensible) : ∀ name ∈ members.names, name ∈ fields.names := by
  -- Only where other names are free is nothing asked of the names.
  cases conforms with
  | exact known | sparse known => exact known
  | extensible => exact absurd rfl strict

/-- Every declared name of a conforming object conforms unless it is skipped. -/
theorem Conforms.field
    (conforms : Conforms links (.shape label mode guard fields) (.object members) parent)
    {name : String} {field : Schema} (declared : (name, field) ∈ fields)
    (examined : ¬ Skips mode none members name) :
    Conforms links field ((members.get? name).getD .undefined) (some (.object members)) := by
  cases conforms with
  | exact _ each => exact each name field declared
  | extensible each => exact each name field declared
  | sparse _ each =>
    cases held : members.get? name with
    | some value => exact each name field value declared held
    | none =>
      -- An absent name is skipped when nothing stands in for it.
      refine absurd ⟨rfl, (Members.get?_eq_none_iff members name).1 held, ?_⟩ examined
      rw [candidate_none, held]
      rfl

/-- An object that a shape refuses does not conform to it. -/
theorem not_conforms_of_checkShape (declaredOnce : fields.names.Nodup)
    (decides : ∀ name field, (name, field) ∈ fields → Decides links check field)
    (sound : (Value.object members).WellFormed)
    (checked : checkShape check mode none fields members = .ok (.error error)) :
    ¬ Conforms links (.shape label mode guard fields) (.object members) parent := by
  intro conforms
  -- One of the slots must have been refused.
  obtain ⟨slot, among, _, refuses, _⟩ :=
    exists_refusing_name checked error.first (by simp [ValidationError.failures])
  have distinct := ((Value.wellFormed_object members).1 sound).1
  rcases (mem_shapeSlots declaredOnce distinct).1 among with
    ⟨name, value, held, undeclared, strict, rfl⟩ | ⟨name, field, declared, examined, rfl⟩
  · exact undeclared (conforms.known strict name (Members.mem_names held))
  · -- The schema of a declared name has refused what it conforms to.
    rcases refuses with ⟨undeclared, _⟩ | ⟨_, error, same, refused, _⟩
    · cases undeclared
    · cases same
      simp only [fieldSlot_eq, candidate_none] at refused
      exact (decides name field declared).not_conforms (sound.member name) refused
        (conforms.field declared examined)

/-- An object that a dictionary accepts conforms to it. -/
theorem conforms_of_checkDict {key item : Schema} (decidesKey : Decides links check key)
    (decidesItem : Decides links check item) (sound : (Value.object members).WellFormed)
    (checked : checkDict check key item members = .ok (.ok accepted)) :
    Conforms links (.dict label guard key item) (.object members) parent := by
  obtain ⟨results, rfl, each⟩ := checkDict_eq_ok_iff.1 checked
  obtain ⟨_, values⟩ := (Value.wellFormed_object members).1 sound
  -- Each entry has come out with a result of its own.
  refine .dict (fun name held => ?_) fun name value held => ?_
  · obtain ⟨value, held⟩ := Members.exists_of_mem_names held
    obtain ⟨_, _, _, checkedKey, _⟩ := exists_related each _ held
    exact decidesKey.conforms (Value.wellFormed_string name) checkedKey
  · obtain ⟨_, _, _, _, _, checkedItem⟩ := exists_related each _ held
    exact decidesItem.conforms (values name value held) checkedItem

/-- An object that a dictionary refuses does not conform to it. -/
theorem not_conforms_of_checkDict {key item : Schema} (decidesKey : Decides links check key)
    (decidesItem : Decides links check item) (sound : (Value.object members).WellFormed)
    (checked : checkDict check key item members = .ok (.error error)) :
    ¬ Conforms links (.dict label guard key item) (.object members) parent := by
  intro conforms
  -- One of the entries must have been refused, for its key or for what it holds.
  obtain ⟨⟨name, value⟩, held, _, refuses, _⟩ :=
    exists_refusing_entry checked error.first (by simp [ValidationError.failures])
  obtain ⟨_, values⟩ := (Value.wellFormed_object members).1 sound
  cases conforms with
  | dict keys entries =>
    rcases refuses with ⟨_, refused, _⟩ | ⟨_, _, _, _, _, refused, _⟩
    · exact decidesKey.not_conforms (Value.wellFormed_string name) refused
        (keys name (Members.mem_names held))
    · exact decidesItem.not_conforms (values name value held) refused (entries name value held)

end Objects

section Arrays

variable {label : Label} {guard : Predicate} {items : List Value}

/-- An array that a list accepts conforms to it. -/
theorem conforms_of_list {element : Schema} (decides : Decides links check element)
    (sound : (Value.array items).WellFormed)
    (checked : checkItems check items (listSlots element items) = .ok (.ok accepted)) :
    Conforms links (.list label guard element) (.array items) parent := by
  obtain ⟨results, _, each⟩ := checkItems_list_eq_ok_iff.1 checked
  -- Each element has come out with a result of its own.
  refine .list fun item among => ?_
  obtain ⟨_, _, checkedItem⟩ := exists_related each item among
  exact decides.conforms ((Value.wellFormed_array items).1 sound item among) checkedItem

/-- An array that a list refuses does not conform to it. -/
theorem not_conforms_of_list {element : Schema} (decides : Decides links check element)
    (sound : (Value.array items).WellFormed)
    (checked : checkItems check items (listSlots element items) = .ok (.error error)) :
    ¬ Conforms links (.list label guard element) (.array items) parent := by
  intro conforms
  -- One of the elements must have been refused.
  obtain ⟨slot, among, _, refuses, _⟩ :=
    exists_refusing_place checked error.first (by simp [ValidationError.failures])
  obtain ⟨place, item, found, rfl⟩ := mem_listSlots among
  have held := List.mem_of_getElem? found
  cases conforms with
  | list each =>
    rcases refuses with ⟨undeclared, _⟩ | ⟨_, _, same, refused, _⟩
    · cases undeclared
    · cases same
      exact decides.not_conforms ((Value.wellFormed_array items).1 sound item held) refused
        (each item held)

/-- An array that a tuple accepts conforms to it. -/
theorem conforms_of_tuple {schemas : List Schema}
    (decides : ∀ schema ∈ schemas, Decides links check schema)
    (sound : (Value.array items).WellFormed)
    (checked : checkItems check items (tupleSlots schemas items) = .ok (.ok accepted)) :
    Conforms links (.tuple label guard schemas) (.array items) parent := by
  obtain ⟨fits, results, _, length, each⟩ := checkItems_tuple_eq_ok_iff.1 checked
  refine .tuple fits fun place schema declared => ?_
  -- There are as many results as the tuple has places.
  obtain ⟨inside, _⟩ := List.getElem?_eq_some_iff.1 declared
  have given := List.getElem?_eq_getElem (show place < results.length by omega)
  exact (decides schema (List.mem_of_getElem? declared)).conforms (sound.element place)
    (each place schema _ declared given)

/-- An array that a tuple refuses does not conform to it. -/
theorem not_conforms_of_tuple {schemas : List Schema}
    (decides : ∀ schema ∈ schemas, Decides links check schema)
    (sound : (Value.array items).WellFormed)
    (checked : checkItems check items (tupleSlots schemas items) = .ok (.error error)) :
    ¬ Conforms links (.tuple label guard schemas) (.array items) parent := by
  intro conforms
  -- One of the places must have been refused.
  obtain ⟨slot, among, _, refuses, _⟩ :=
    exists_refusing_place checked error.first (by simp [ValidationError.failures])
  obtain ⟨place, inside, rfl⟩ := mem_tupleSlots.1 among
  cases conforms with
  | tuple fits each =>
    rcases refuses with ⟨undeclared, _⟩ | ⟨schema, _, declared, refused, _⟩
    · -- Only a surplus place has no schema.
      have past := List.getElem?_eq_none_iff.1 undeclared
      omega
    · exact (decides schema (List.mem_of_getElem? declared)).not_conforms (sound.element place)
        refused (each place schema declared)

end Arrays

/-- A step that accepts has met a value that conforms, if the steps that it leads to decide. -/
theorem Concludes.conforms (concluded : Concludes links check schema value parent (.ok accepted))
    (defaultFree : schema.defaults = none) (declaredOnce : schema.declaredNames.Nodup)
    (sound : value.WellFormed) (unchanging : PartsUnchanging check schema)
    (below : ∀ next, Leads links schema next → Decides links check next) :
    Conforms links schema value parent := by
  -- Each rule of conformance has its own way of being accepted.
  cases concluded with
  | admitted leaf admits => exact conforms_of_admits leaf admits
  | @shape label _ _ _ _ _ _ _ checked =>
    have noDefaults : label.defaults = none := defaultFree
    rw [noDefaults] at checked
    have distinct := ((Value.wellFormed_object _).1 sound).1
    obtain ⟨result, rfl, accepts⟩ := checkShape_eq_ok declaredOnce distinct checked
    exact accepts.conforms (fun name field declared => below field (.field declared)) sound
  | list _ checked => exact conforms_of_list (below _ .element) sound checked
  | tuple _ checked =>
    exact conforms_of_tuple (fun item among => below item (.item among)) sound checked
  | dict _ checked => exact conforms_of_checkDict (below _ .key) (below _ .entry) sound checked
  | @alternative _ before alternative after _ _ _ _ checked =>
    have among : alternative ∈ before ++ alternative :: after := by simp
    exact .union among ((below alternative (.alternative among)).conforms sound checked)
  | parts checked =>
    -- No part has changed the value, so each has accepted the one that the intersection is given.
    obtain ⟨_, each⟩ := passThrough_ok_of_unchanged (fun part among passed =>
      unchanging _ _ rfl part among value parent passed sound) checked
    exact .intersection fun part among =>
      (below part (.part among)).conforms sound (each part among)
  | target known checked => exact .lazy known ((below _ (.target known)).conforms sound checked)
  | selected checked =>
    exact .dynamic ((below _ (.selected value parent)).conforms sound checked)

/-- A step that refuses has met a value that does not conform, if the steps that it leads to
decide. -/
theorem Concludes.not_conforms
    (concluded : Concludes links check schema value parent (.error error))
    (defaultFree : schema.defaults = none) (declaredOnce : schema.declaredNames.Nodup)
    (builtin : BuiltinGuard schema) (sound : value.WellFormed)
    (unchanging : PartsUnchanging check schema)
    (below : ∀ next, Leads links schema next → Decides links check next) :
    ¬ Conforms links schema value parent := by
  intro conforms
  -- Each way of being refused contradicts the rule by which the value would conform.
  cases concluded with
  | refused refuses _ => exact refuses (conforms.admits builtin)
  | @shape label _ _ _ _ _ _ _ checked =>
    have noDefaults : label.defaults = none := defaultFree
    rw [noDefaults] at checked
    exact not_conforms_of_checkShape declaredOnce
      (fun name field declared => below field (.field declared)) sound checked conforms
  | list _ checked => exact not_conforms_of_list (below _ .element) sound checked conforms
  | tuple _ checked =>
    exact not_conforms_of_tuple (fun item among => below item (.item among)) sound checked conforms
  | dict _ checked =>
    exact not_conforms_of_checkDict (below _ .key) (below _ .entry) sound checked conforms
  | noAlternative each =>
    cases conforms with
    | @union _ _ alternative _ _ among conforms =>
      -- Every alternative has refused, also the one that the value conforms to.
      obtain ⟨error, _, refused⟩ := exists_related each alternative among
      exact (below alternative (.alternative among)).not_conforms sound refused conforms
  | part checked =>
    cases conforms with
    | intersection conforms =>
      -- The part that refuses has seen the value as the intersection was given it.
      obtain ⟨part, among, refused⟩ := passThrough_error_of_unchanged (fun part among passed =>
        unchanging _ _ rfl part among value parent passed sound) checked
      exact (below part (.part among)).not_conforms sound refused (conforms part among)
  | target known checked =>
    cases conforms with
    | lazy knownToo conforms =>
      -- A reference has no second target.
      rw [known] at knownToo
      cases knownToo
      exact (below _ (.target known)).not_conforms sound checked conforms
  | selected checked =>
    cases conforms with
    | dynamic conforms =>
      exact (below _ (.selected value parent)).not_conforms sound checked conforms

/-- A schema without defaults, behind built-in guards, and with no tuple beneath an intersection. -/
structure Declarative (links : Links) (node : Schema) : Prop where
  defaultFree : node.defaults = none
  declaredOnce : node.declaredNames.Nodup
  builtin : BuiltinGuard node
  tuplesOut : PartsKeepTuplesOut links node

/-- Validation decides whether values conform. -/
theorem decides_validate (depth : Nat) (nodes : Throughout links (Declarative links) schema) :
    Decides links (validate links depth) schema := by
  -- The depth decreases with each step, whichever node it leads to.
  induction depth generalizing schema with
  | zero =>
    intro value parent outcome _ checked
    cases checked
  | succ depth ih =>
    intro value parent outcome sound checked
    have concluded := concludes_of_checkEffective checked
    rw [effective_of_defaultFree nodes.here.defaultFree] at concluded
    have below : ∀ next, Leads links schema next → Decides links (validate links depth) next :=
      fun next leads => ih (nodes.below leads)
    have unchanging : PartsUnchanging (validate links depth) schema :=
      partsUnchanging_validate (nodes.imp fun _ node => node.defaultFree)
        (nodes.imp fun _ node => node.declaredOnce) nodes.here.tuplesOut
    cases outcome with
    | ok accepted =>
      have conforms := concluded.conforms nodes.here.defaultFree nodes.here.declaredOnce sound
        unchanging below
      exact ⟨fun _ => conforms, fun _ => ⟨accepted, rfl⟩⟩
    | error error =>
      have refuses := concluded.not_conforms nodes.here.defaultFree nodes.here.declaredOnce
        nodes.here.builtin sound unchanging below
      refine ⟨fun accepts => ?_, fun conforms => absurd conforms refuses⟩
      obtain ⟨_, same⟩ := accepts
      cases same

/-- Without defaults, behind built-in guards and with no tuple beneath an intersection, a validation
that returns accepts a value exactly when the value conforms. -/
theorem validate_ok_iff_conforms {depth : Nat} {outcome : Outcome}
    (defaultFree : Throughout links (fun node => node.defaults = none) schema)
    (declaredOnce : Throughout links (fun node => node.declaredNames.Nodup) schema)
    (builtin : Throughout links BuiltinGuard schema)
    (tuplesOut : Throughout links (PartsKeepTuplesOut links) schema) (sound : value.WellFormed)
    (checked : validate links depth schema value parent = .ok outcome) :
    (∃ accepted, outcome = .ok accepted) ↔ Conforms links schema value parent :=
  -- The four conditions hold of every node that is reached, and the depth is any at all.
  decides_validate depth (fun node reached => ⟨defaultFree node reached, declaredOnce node reached,
    builtin node reached, tuplesOut node reached⟩) value parent outcome sound checked

/-- An object that may hold another one of its kind as the next. -/
def chain : Schema :=
  .shape ⟨"chain", none⟩ .sparse (Registry.hasTag .object) [("next", .lazy 0)]

/-- The reference by which a chain goes on. -/
def chainLinks : Links :=
  [(0, chain)]

/-- A chain consists of its objects and of the references between them. -/
theorem throughout_chain : Throughout chainLinks (fun node => node = chain ∨ node = .lazy 0)
    chain := by
  -- The object leads to the reference, which leads back to the object.
  refine .of_closed _ (.inl rfl) (fun node next among leads => ?_) fun _ among => among
  rcases among with rfl | rfl
  · cases leads with
    | field declared =>
      simp only [List.mem_singleton, Prod.mk.injEq] at declared
      exact .inr declared.2
  · cases leads with
    | target known =>
      cases known
      exact .inl rfl

/-- A chain of two objects conforms, and one that goes on with a text does not. -/
theorem conforms_chain :
    Conforms chainLinks chain (.object [("next", .object [])]) none ∧
      ¬ Conforms chainLinks chain (.object [("next", .string "end")]) none := by
  -- Both sorts of node in a chain are as validation needs them.
  have defaultFree : Throughout chainLinks (fun node => node.defaults = none) chain :=
    throughout_chain.imp fun node among => by rcases among with rfl | rfl <;> rfl
  have declaredOnce : Throughout chainLinks (fun node => node.declaredNames.Nodup) chain :=
    throughout_chain.imp fun node among => by
      rcases among with rfl | rfl <;> simp [declaredNames, chain, Members.names]
  have builtin : Throughout chainLinks BuiltinGuard chain :=
    throughout_chain.imp fun node among => by
      rcases among with rfl | rfl
      · rfl
      · trivial
  have tuplesOut : Throughout chainLinks (PartsKeepTuplesOut chainLinks) chain :=
    throughout_chain.imp fun node among => by rcases among with rfl | rfl <;> trivial
  -- Validation comes to an end on both values, and that settles the question.
  have accepted : validate chainLinks 3 chain (.object [("next", .object [])]) none =
      .ok (.ok (.object [("next", .object [])])) := rfl
  have refused : ∃ error, validate chainLinks 3 chain (.object [("next", .string "end")]) none =
      .ok (.error error) := ⟨_, rfl⟩
  obtain ⟨error, refused⟩ := refused
  constructor
  · exact (validate_ok_iff_conforms defaultFree declaredOnce builtin tuplesOut
      (by simp [Members.names]) accepted).1 ⟨_, rfl⟩
  · intro conforms
    obtain ⟨_, same⟩ := (validate_ok_iff_conforms defaultFree declaredOnce builtin tuplesOut
      (by simp [Members.names]) refused).2 conforms
    cases same

end Conform.Schema
