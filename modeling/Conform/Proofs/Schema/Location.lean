import Conform.Proofs.Schema.Coercion
import Conform.Proofs.Value.Place

/-! Failures point at what they report: the way of each leads from the value to what it found. -/

namespace Conform.Schema

/-- Predicates of a node speak about the value that they are asked about, and about nothing else. -/
def SpeaksPlainly (schema : Schema) : Prop :=
  ∀ predicate ∈ schema.predicates, ∀ value parent patch,
    predicate value parent = .detailed patch → patch.path = [] ∧ patch.value = none

/-- Checking a value against a schema comes, at the end of a path, to another node. -/
inductive Governs (links : Links) :
    Schema → Value → Option Value → Path → Schema → Prop where
  | here {schema value parent} : Governs links schema value parent [] schema
  | field {label mode guard name field value parent path node} {fields : Members Schema}
      (declared : (name, field) ∈ fields)
      (onward : Governs links field (value.inside (.key name)) (some value) path node) :
      Governs links (.shape label mode guard fields) value parent (.key name :: path) node
  | element {label guard element place value parent path node}
      (onward : Governs links element (value.inside (.index place)) (some value) path node) :
      Governs links (.list label guard element) value parent (.index place :: path) node
  | item {label guard schema value parent path node} {place : Nat} {items : List Schema}
      (declared : items[place]? = some schema)
      (onward : Governs links schema (value.inside (.index place)) (some value) path node) :
      Governs links (.tuple label guard items) value parent (.index place :: path) node
  | entry {label guard key item name value parent path node}
      (onward : Governs links item (value.inside (.key name)) (some value) path node) :
      Governs links (.dict label guard key item) value parent (.key name :: path) node
  -- From here on the value stays unopened, and the path does not grow.
  | alternative {label alternative value parent path node} {alternatives : List Schema}
      (among : alternative ∈ alternatives)
      (onward : Governs links alternative value parent path node) :
      Governs links (.union label alternatives) value parent path node
  | part {label part value parent path node} {parts : List Schema} (among : part ∈ parts)
      (onward : Governs links part value parent path node) :
      Governs links (.intersection label parts) value parent path node
  | target {reference target value parent path node} (known : links.get? reference = some target)
      (onward : Governs links target value parent path node) :
      Governs links (.lazy reference) value parent path node
  | selected {label select value parent path node}
      (onward : Governs links (select value parent) value parent path node) :
      Governs links (.dynamic label select) value parent path node

/-- A failure reports a key: its way leads to an entry of a dictionary whose key schema refuses the
name of the entry, and what it found is that name. -/
inductive ReportsKey (links : Links) (schema : Schema) (value : Value) (parent : Option Value)
    (failure : Failure) : Prop where
  | intro {front name label guard key item members depth error}
      (governed : Governs links schema value parent front (.dict label guard key item))
      -- The way ends one step short of the name, in the object that holds it.
      (reached : value.follow front = .object members) (held : name ∈ Members.names members)
      (refused : validate links depth key (.string name) (some (.object members)) =
        .ok (.error error))
      (ends : failure.path = front ++ [.key name]) (found : failure.value = .string name)

/-- A failure points at what it reports, unless that is a key. -/
structure Located (links : Links) (schema : Schema) (value : Value) (parent : Option Value)
    (failure : Failure) : Prop where
  /-- The failure is told from the value itself. -/
  data : failure.data = value
  /-- Its way leads to what it found. -/
  found : value.follow failure.path = failure.value ∨
    ReportsKey links schema value parent failure
  /-- Where nothing lies inside the value, the failure is one of the value as a whole. -/
  whole : ¬ value.IsContainer → failure.path = []

variable {links : Links} {schema next : Schema} {value : Value} {parent : Option Value}
  {failure : Failure} {error : ValidationError} {depth : Nat}

/-- A failure of the value as a whole points at it. -/
theorem OwnFailure.located (own : schema.OwnFailure value parent failure)
    (plainly : schema.SpeaksPlainly) : Located links schema value parent failure := by
  -- The node itself reports the value, and so does a predicate that patches no more than words.
  rcases own with rfl | ⟨predicate, mine, worded⟩
  · exact ⟨rfl, .inl rfl, fun _ => rfl⟩
  · cases verdict : predicate value (schema.asks parent) with
    | pass => simp [verdict, Verdict.failure?] at worded
    | fail | reason =>
      simp only [verdict, Verdict.failure?, Option.some.injEq] at worded
      subst worded
      exact ⟨rfl, .inl rfl, fun _ => rfl⟩
    | detailed patch =>
      obtain ⟨noPath, noValue⟩ := plainly predicate mine value _ patch verdict
      simp only [verdict, Verdict.failure?, Option.some.injEq] at worded
      subst worded
      exact ⟨rfl, .inl (by simp [noPath, noValue]), fun _ => noPath⟩

/-- A failure that one node reports about a value, another one that leads to it reports as well. -/
theorem Located.along (located : Located links next value parent failure)
    (onward : ∀ {path node}, Governs links next value parent path node →
      Governs links schema value parent path node) :
    Located links schema value parent failure where
  data := located.data
  found := by
    rcases located.found with found | key
    · exact .inl found
    · -- The dictionary whose key is refused is governed by way of the first node as well.
      cases key with
      | intro governed reached held refused ends found =>
        exact .inr (.intro (onward governed) reached held refused ends found)
  whole := located.whole

/-- A failure at a place inside a container is one of the container, one step further along. -/
theorem Located.nest {container : Value} {segment : Segment} (isContainer : container.IsContainer)
    (located : Located links next (container.inside segment) (some container) failure)
    (onward : ∀ {path node},
      Governs links next (container.inside segment) (some container) path node →
        Governs links schema container parent (segment :: path) node) :
    Located links schema container parent (failure.nest segment container) where
  data := rfl
  found := by
    rcases located.found with found | key
    · -- The first step leads to where the rest of the way begins.
      exact .inl found
    · cases key with
      | intro governed reached held refused ends found =>
        refine .inr (.intro (onward governed) reached held refused ?_ found)
        rw [Failure.nest, ends, List.cons_append]
  whole := fun foreign => absurd isContainer foreign

/-- Whatever is refused is refused with failures that point at what they report. -/
def Locates (links : Links) (depth : Nat) (schema : Schema) : Prop :=
  ∀ value parent error, value.WellFormed →
    validate links depth schema value parent = .ok (.error error) →
    ∀ failure ∈ error.failures, Located links schema value parent failure

/-- The failures of a slot point at what they report, if its own schema locates and the slot stands
where its segment leads to. -/
theorem Located.of_slot {container : Value} {slot : Slot} {failures : List Failure}
    (refuses : slot.Refuses (validate links depth) container failures)
    (isContainer : container.IsContainer) (stands : container.inside slot.segment = slot.value)
    (sound : slot.value.WellFormed)
    (locates : ∀ field, slot.declared = some field → Locates links depth field)
    (onward : ∀ {field path node}, slot.declared = some field →
      Governs links field slot.value (some container) path node →
        Governs links schema container parent (slot.segment :: path) node) :
    ∀ failure ∈ failures, Located links schema container parent failure := by
  intro failure among
  rcases refuses with ⟨_, rfl⟩ | ⟨field, error, declared, refused, rfl⟩
  · -- Nothing is declared for the slot, so what stands there is reported as it is.
    obtain rfl := List.mem_singleton.1 among
    exact ⟨rfl, .inl stands, fun foreign => absurd isContainer foreign⟩
  · -- The failure has come from the value of the slot, one step further in.
    obtain ⟨inner, found, rfl⟩ := List.mem_map.1 among
    have located := locates field declared slot.value (some container) error sound refused inner found
    rw [← stands] at located
    exact located.nest isContainer fun governed => onward declared (stands ▸ governed)

/-- An object that a shape refuses is refused with failures that point at what they report. -/
theorem located_of_checkShape {label : Label} {mode : ShapeMode} {guard : Predicate}
    {fields : Members Schema} {members : Members Value} (declaredOnce : fields.names.Nodup)
    (sound : (Value.object members).WellFormed)
    (locates : ∀ name field, (name, field) ∈ fields → Locates links depth field)
    (checked : checkShape (validate links depth) mode none fields members = .ok (.error error)) :
    ∀ failure ∈ error.failures,
      Located links (.shape label mode guard fields) (.object members) parent failure := by
  intro failure found
  obtain ⟨slot, among, failures, refuses, inside⟩ := exists_refusing_name checked failure found
  have ⟨distinct, values⟩ := (Value.wellFormed_object members).1 sound
  rcases (mem_shapeSlots declaredOnce distinct).1 among with
    ⟨name, value, held, _, _, rfl⟩ | ⟨name, field, declared, _, rfl⟩
  · -- An undeclared name is reported with what it holds.
    have read := Members.get?_of_mem distinct held
    refine Located.of_slot refuses trivial (by simp [read]) (values name value held) ?_ ?_ failure
      inside
    · intro _ same
      cases same
    · intro _ _ _ same
      cases same
  · -- Without a default, the value that is checked is the one that the name leads to.
    rw [fieldSlot_eq, candidate_none] at refuses
    refine Located.of_slot refuses trivial rfl (sound.member name) ?_ ?_ failure inside
    · intro _ same
      cases same
      exact locates name field declared
    · intro _ _ _ same governed
      cases same
      exact .field declared governed

/-- An array that a list refuses is refused with failures that point at what they report. -/
theorem located_of_list {label : Label} {guard : Predicate} {element : Schema} {items : List Value}
    (sound : (Value.array items).WellFormed) (locates : Locates links depth element)
    (checked : checkItems (validate links depth) items (listSlots element items) =
      .ok (.error error)) :
    ∀ failure ∈ error.failures,
      Located links (.list label guard element) (.array items) parent failure := by
  intro failure found
  obtain ⟨slot, among, failures, refuses, inside⟩ := exists_refusing_place checked failure found
  obtain ⟨place, item, held, rfl⟩ := mem_listSlots among
  have soundItem := (Value.wellFormed_array items).1 sound item (List.mem_of_getElem? held)
  -- The place of the slot is where its element stands.
  refine Located.of_slot refuses trivial (by simp [held]) soundItem ?_ ?_ failure inside
  · intro _ same
    cases same
    exact locates
  · intro _ _ _ same governed
    cases same
    exact .element (by simpa [held] using governed)

/-- An array that a tuple refuses is refused with failures that point at what they report. -/
theorem located_of_tuple {label : Label} {guard : Predicate} {schemas : List Schema}
    {items : List Value} (sound : (Value.array items).WellFormed)
    (locates : ∀ schema ∈ schemas, Locates links depth schema)
    (checked : checkItems (validate links depth) items (tupleSlots schemas items) =
      .ok (.error error)) :
    ∀ failure ∈ error.failures,
      Located links (.tuple label guard schemas) (.array items) parent failure := by
  intro failure found
  obtain ⟨slot, among, failures, refuses, inside⟩ := exists_refusing_place checked failure found
  obtain ⟨place, _, rfl⟩ := mem_tupleSlots.1 among
  -- A place past the end of the array reads as undefined, which is what its slot holds.
  refine Located.of_slot refuses trivial rfl (sound.element place) ?_ ?_ failure inside
  · intro schema declared
    exact locates schema (List.mem_of_getElem? declared)
  · intro _ _ _ declared governed
    exact .item declared governed

/-- An object that a dictionary refuses is refused with failures that point at what they report, and
those of its keys report the key. -/
theorem located_of_checkDict {label : Label} {guard : Predicate} {key item : Schema}
    {members : Members Value} (sound : (Value.object members).WellFormed)
    (kept : ∀ name parent accepted,
      validate links depth key (.string name) parent = .ok (.ok accepted) →
        accepted = .string name)
    (locatesKey : Locates links depth key) (locatesItem : Locates links depth item)
    (checked : checkDict (validate links depth) key item members = .ok (.error error)) :
    ∀ failure ∈ error.failures,
      Located links (.dict label guard key item) (.object members) parent failure := by
  intro failure found
  obtain ⟨⟨name, value⟩, held, failures, refuses, inside⟩ :=
    exists_refusing_entry checked failure found
  have ⟨distinct, values⟩ := (Value.wellFormed_object members).1 sound
  rcases refuses with ⟨error, refused, rfl⟩ | ⟨accepted, name', error, taken, read, refused, rfl⟩
  · -- The key is refused: the way ends in it.
    obtain ⟨inner, among, rfl⟩ := List.mem_map.1 inside
    have located := locatesKey (.string name) _ error (Value.wellFormed_string name) refused inner
      among
    -- A text has no places inside, so the failure is one of the whole key.
    have whole : inner.path = [] := located.whole id
    refine ⟨rfl, .inr (.intro .here rfl (Members.mem_names held) refused ?_ ?_), ?_⟩
    · rw [Failure.nest, whole, List.nil_append]
    · rcases located.found with found | key
      · rw [whole] at found
        exact found.symm
      · cases key with
        | intro _ _ _ _ ends _ => simp [whole] at ends
    · intro foreign
      exact absurd trivial foreign
  · -- What the entry holds is refused: its name is still the one under which it is held.
    obtain ⟨inner, among, rfl⟩ := List.mem_map.1 inside
    obtain rfl := kept name _ accepted taken
    have same : name = name' := by simpa [keyText, Value.toText?] using read
    subst same
    have located := locatesItem value _ error (values name value held) refused inner among
    have stands : (Value.object members).inside (.key name) = value := by
      simp [Members.get?_of_mem distinct held]
    rw [← stands] at located
    exact located.nest trivial .entry

/-- A node whose failures can be traced back to the value: it has no default, names each field once,
keeps tuples out of intersections, and its predicates speak plainly. -/
structure Traceable (links : Links) (node : Schema) : Prop where
  defaultFree : node.defaults = none
  declaredOnce : node.declaredNames.Nodup
  tuplesOut : PartsKeepTuplesOut links node
  plainly : node.SpeaksPlainly

/-- A step that refuses points at what it reports, if the steps that it leads to do. -/
theorem Concludes.located
    (concluded : Concludes links (validate links depth) schema value parent (.error error))
    (node : Traceable links schema) (sound : value.WellFormed)
    (unchanging : PartsUnchanging (validate links depth) schema)
    (pads : ∀ next, Leads links schema next → Pads (fun _ => True) (validate links depth) next)
    (below : ∀ next, Leads links schema next → Locates links depth next) :
    ∀ failure ∈ error.failures, Located links schema value parent failure := by
  -- Containers lengthen the way by one step, and all other nodes leave it as it is.
  cases concluded with
  | refused _ own =>
    intro failure among
    obtain rfl := List.mem_singleton.1 among
    exact own.located node.plainly
  | @shape label _ _ _ _ _ _ _ checked =>
    have noDefaults : label.defaults = none := node.defaultFree
    rw [noDefaults] at checked
    exact located_of_checkShape node.declaredOnce sound
      (fun name field declared => below field (.field declared)) checked
  | list _ checked => exact located_of_list sound (below _ .element) checked
  | tuple _ checked =>
    exact located_of_tuple sound (fun item among => below item (.item among)) checked
  | dict _ checked =>
    -- A key is a text, which no check without defaults changes.
    have kept := fun name parent accepted checkedKey =>
      (pads _ .key (.string name) parent accepted (Value.wellFormed_string name)
        checkedKey).of_string
    exact located_of_checkDict sound kept (below _ .key) (below _ .entry) checked
  | @noAlternative label alternatives errors _ _ each =>
    rw [ValidationError.failures_retype]
    intro failure found
    -- The failures are those of the first alternative, unless there is none.
    cases each with
    | nil =>
      obtain rfl := List.mem_singleton.1 found
      exact OwnFailure.located (.inl rfl) node.plainly
    | @cons alternative _ others _ refused rest =>
      have among : alternative ∈ alternative :: others := List.mem_cons_self
      exact (below alternative (.alternative among) value parent _ sound refused failure
        found).along (.alternative among)
  | part checked =>
    rw [ValidationError.failures_retype]
    intro failure found
    -- No part changes the value, so the one that refuses has seen the value itself.
    obtain ⟨part, among, refused⟩ := passThrough_error_of_unchanged (fun part among passed =>
      unchanging _ _ rfl part among value parent passed sound) checked
    exact (below part (.part among) value parent _ sound refused failure found).along (.part among)
  | target known checked =>
    intro failure found
    exact (below _ (.target known) value parent _ sound checked failure found).along
      (.target known)
  | selected checked =>
    intro failure found
    exact (below _ (.selected value parent) value parent _ sound checked failure found).along
      .selected

/-- Where every node that can be reached is traceable, failures point at what they report. -/
theorem locates_validate (depth : Nat) (nodes : Throughout links (Traceable links) schema) :
    Locates links depth schema := by
  -- The depth decreases with each step, whichever node it leads to.
  induction depth generalizing schema with
  | zero =>
    intro value parent error _ checked
    cases checked
  | succ depth ih =>
    intro value parent error sound checked
    have concluded := concludes_of_checkEffective checked
    rw [effective_of_defaultFree nodes.here.defaultFree] at concluded
    have unchanging : PartsUnchanging (validate links depth) schema :=
      partsUnchanging_validate (nodes.imp fun _ node => node.defaultFree)
        (nodes.imp fun _ node => node.declaredOnce) nodes.here.tuplesOut
    refine concluded.located nodes.here sound unchanging (fun next leads => ?_) fun next leads =>
      ih (nodes.below leads)
    exact pads_validate depth ((nodes.below leads).imp fun _ node =>
      ⟨node.defaultFree, node.declaredOnce, fun _ _ _ _ => trivial⟩)

/-- Without defaults, with no tuple beneath an intersection and with predicates that speak plainly,
every failure of a refused value is told from that value, and its way leads to what it found, unless
it reports the key of an entry whose key schema refuses it. -/
theorem validate_failure_located
    (defaultFree : Throughout links (fun node => node.defaults = none) schema)
    (declaredOnce : Throughout links (fun node => node.declaredNames.Nodup) schema)
    (tuplesOut : Throughout links (PartsKeepTuplesOut links) schema)
    (plainly : Throughout links SpeaksPlainly schema) (sound : value.WellFormed)
    (checked : validate links depth schema value parent = .ok (.error error)) :
    ∀ failure ∈ error.failures, failure.data = value ∧
      (value.follow failure.path = failure.value ∨
        ReportsKey links schema value parent failure) := by
  -- The four conditions make every node traceable, and the depth is any at all.
  intro failure found
  have nodes : Throughout links (Traceable links) schema := fun node reached =>
    ⟨defaultFree node reached, declaredOnce node reached, tuplesOut node reached,
      plainly node reached⟩
  have located := locates_validate depth nodes value parent error sound checked failure found
  exact ⟨located.data, located.found⟩

/-- A node behind a guard that says no more than yes or no speaks plainly. -/
theorem speaksPlainly_of_hasTag {tag : TypeTag}
    (guarded : schema.predicates = [Registry.hasTag tag]) : schema.SpeaksPlainly := by
  intro predicate mine value parent patch judged
  -- The test for a tag passes or fails, without any patch.
  rw [guarded, List.mem_singleton] at mine
  subst mine
  unfold Registry.hasTag Verdict.ofBool at judged
  split at judged
  · cases judged
  · cases judged

/-- The only name that a voided dictionary knows. -/
def onlyName : Schema :=
  .enumeration ⟨"name", none⟩ [.string "name"]

/-- A schema that nothing conforms to. -/
def nothing : Schema :=
  .enumeration ⟨"nothing", none⟩ []

/-- A dictionary that knows a single name and accepts nothing under it. -/
def voided : Schema :=
  .dict ⟨"voided", none⟩ (Registry.hasTag .object) onlyName nothing

/-- A list of voided dictionaries. -/
def voidedList : Schema :=
  .list ⟨"[voided]", none⟩ (Registry.hasTag .array) voided

/-- The nodes of a list of voided dictionaries. -/
theorem throughout_voidedList : Throughout []
    (fun node => node = voidedList ∨ node = voided ∨ node = onlyName ∨ node = nothing)
    voidedList := by
  -- The list leads to the dictionary, and that to its keys and to what they hold.
  refine .of_closed _ (.inl rfl) (fun node next among leads => ?_) fun _ among => among
  rcases among with rfl | rfl | rfl | rfl
  · cases leads
    exact .inr (.inl rfl)
  · cases leads
    · exact .inr (.inr (.inl rfl))
    · exact .inr (.inr (.inr rfl))
  · cases leads
  · cases leads

/-- Of two entries of a voided dictionary, one is reported for what it holds and the other for its
key, and both failures point at that. -/
theorem validate_failure_located_voidedList :
    ∃ error, validate [] 3 voidedList
        (.array [.object [("name", .null), ("other", .null)]]) none = .ok (.error error) ∧
      ∀ failure ∈ error.failures,
        failure.data = .array [.object [("name", .null), ("other", .null)]] ∧
        ((Value.array [.object [("name", .null), ("other", .null)]]).follow failure.path =
            failure.value ∨
          ReportsKey [] voidedList (.array [.object [("name", .null), ("other", .null)]]) none
            failure) := by
  -- The run is carried out, and the four nodes of the list meet the conditions.
  have sound : (Value.array [.object [("name", .null), ("other", .null)]]).WellFormed := by
    simp [Value.WellFormed, Value.AllWellFormed, Value.MembersWellFormed, Members.names]
  have refused : ∃ error, validate [] 3 voidedList
      (.array [.object [("name", .null), ("other", .null)]]) none = .ok (.error error) := ⟨_, rfl⟩
  obtain ⟨error, refused⟩ := refused
  refine ⟨error, refused, validate_failure_located
    (throughout_voidedList.imp fun node among => ?_)
    (throughout_voidedList.imp fun node among => ?_)
    (throughout_voidedList.imp fun node among => ?_)
    (throughout_voidedList.imp fun node among => ?_) sound refused⟩
  · rcases among with rfl | rfl | rfl | rfl <;> rfl
  · rcases among with rfl | rfl | rfl | rfl <;> exact List.nodup_nil
  · rcases among with rfl | rfl | rfl | rfl <;> trivial
  · rcases among with rfl | rfl | rfl | rfl
    · exact speaksPlainly_of_hasTag rfl
    · exact speaksPlainly_of_hasTag rfl
    · intro predicate mine
      cases mine
    · intro predicate mine
      cases mine

end Conform.Schema
