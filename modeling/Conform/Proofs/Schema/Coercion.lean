import Conform.Proofs.Schema.Step
import Conform.Proofs.Value.Padding

/-! Without defaults, validation changes nothing but the length of arrays that tuples fill up. -/

namespace Conform.Schema

/-- A node that has no default, names each field once, and fills arrays up to given lengths alone. -/
structure OnlyPads (size : Nat → Prop) (node : Schema) : Prop where
  defaultFree : node.defaults = none
  declaredOnce : node.declaredNames.Nodup
  sized : ∀ label guard items, node = .tuple label guard items → size items.length

/-- A checker pads the values that it accepts. -/
def Pads (size : Nat → Prop) (check : Checker) (schema : Schema) : Prop :=
  ∀ value parent accepted, value.WellFormed → check schema value parent = .ok (.ok accepted) →
    value.Padded size accepted

variable {size : Nat → Prop} {links : Links} {check : Checker} {schema : Schema} {value : Value}
  {parent : Option Value} {accepted : Value}

section Objects

variable {mode : ShapeMode} {fields : Members Schema} {members result : Members Value}

/-- A name that the object lacks stays absent. -/
theorem ShapeAccepts.absent (accepts : ShapeAccepts check mode none fields members result)
    (pads : ∀ name field, (name, field) ∈ fields → Pads size check field) {name : String}
    (lacking : name ∉ members.names) : result.get? name = none := by
  have unheld := Members.get?_of_not_mem lacking
  by_cases declared : name ∈ fields.names
  · by_cases skips : Skips mode none members name
    · exact accepts.skipped name skips
    · -- The field is asked about what is undefined, and can only leave that as it is.
      obtain ⟨field, declared⟩ := Members.exists_of_mem_names declared
      obtain ⟨value, checked, read⟩ := accepts.examined name field declared skips
      rw [candidate_none, unheld] at checked
      have padded := pads name field declared _ _ _ Value.wellFormed_undefined checked
      rw [read, padded.of_undefined]
      simp [Members.contains, unheld, Value.isUndefined]
  · -- An undeclared name keeps what it holds, which is nothing.
    rw [accepts.undeclared name declared, unheld]

/-- A shape whose fields pad keeps the names of an object and pads what they hold. -/
theorem ShapeAccepts.padded (accepts : ShapeAccepts check mode none fields members result)
    (pads : ∀ name field, (name, field) ∈ fields → Pads size check field)
    (sound : (Value.object members).WellFormed) :
    (Value.object members).Padded size (.object result) := by
  have sameNames := accepts.names_eq fun _ lacking => accepts.absent pads lacking
  refine .object sameNames fun name old new held given => ?_
  by_cases declared : name ∈ fields.names
  · -- What is held under a declared name has gone through the check of its field.
    obtain ⟨field, declared⟩ := Members.exists_of_mem_names declared
    have present : name ∈ members.names := Members.mem_names (Members.mem_of_get? held)
    obtain ⟨value, checked, read⟩ :=
      accepts.examined name field declared fun skips => skips.2.1 present
    rw [candidate_none, held, Option.getD_some] at checked
    rw [(Members.contains_iff members name).2 present, Bool.true_or, if_pos rfl, given] at read
    cases read
    have soundOld : old.WellFormed :=
      ((Value.wellFormed_object members).1 sound).2 name old (Members.mem_of_get? held)
    exact pads name field declared _ _ _ soundOld checked
  · rw [accepts.undeclared name declared, held] at given
    cases given
    exact .same old

/-- A dictionary whose key and item schemas pad keeps the names of an object and pads what they
hold. -/
theorem padded_of_checkDict {key item : Schema} (padsKey : Pads size check key)
    (padsItem : Pads size check item) (sound : (Value.object members).WellFormed)
    (checked : checkDict check key item members = .ok (.ok accepted)) :
    (Value.object members).Padded size accepted := by
  obtain ⟨distinct, values⟩ := (Value.wellFormed_object members).1 sound
  -- A key is a text, and no padding changes a text.
  have kept : ∀ name result,
      check key (.string name) (some (.object members)) = .ok (.ok result) →
      result = .string name := fun name result checkedKey =>
    (padsKey _ _ _ (Value.wellFormed_string name) checkedKey).of_string
  obtain ⟨results, rfl, each⟩ := (checkDict_eq_ok_iff_of_kept distinct kept).1 checked
  have sameNames := names_of_related each
  refine .object sameNames fun name old new held given => ?_
  -- The new value belongs to an entry of the same name, which is the only one.
  obtain ⟨⟨name', old'⟩, among, same, _, checkedItem⟩ :=
    exists_related each.flip _ (Members.mem_of_get? given)
  cases same
  rw [Members.get?_of_mem distinct among] at held
  cases held
  exact padsItem _ _ _ (values name old among) checkedItem

end Objects

section Arrays

variable {items : List Value}

/-- A list whose element schema pads keeps its length and pads its elements. -/
theorem padded_of_list {element : Schema} (pads : Pads size check element)
    (sound : (Value.array items).WellFormed)
    (checked : checkItems check items (listSlots element items) = .ok (.ok accepted)) :
    (Value.array items).Padded size accepted := by
  obtain ⟨results, rfl, each⟩ := checkItems_list_eq_ok_iff.1 checked
  -- Each element is related to the one in its place, and there are no others.
  have sameLength := each.length_eq
  refine .array (.inl sameLength.symm) (fun place old new held given => ?_)
    fun place new past given => ?_
  · have soundOld := (Value.wellFormed_array items).1 sound old (List.mem_of_getElem? held)
    exact pads _ _ _ soundOld (related_at each held given)
  · obtain ⟨inside, _⟩ := List.getElem?_eq_some_iff.1 given
    omega

/-- A tuple whose item schemas pad fills an array up to its own length and pads its elements. -/
theorem padded_of_tuple {schemas : List Schema} (sized : size schemas.length)
    (pads : ∀ item ∈ schemas, Pads size check item) (sound : (Value.array items).WellFormed)
    (checked : checkItems check items (tupleSlots schemas items) = .ok (.ok accepted)) :
    (Value.array items).Padded size accepted := by
  obtain ⟨fits, results, rfl, length, each⟩ := checkItems_tuple_eq_ok_iff.1 checked
  -- At every place, what was there or undefined has gone through the check of the place's schema.
  have padded : ∀ (place : Nat) new, results[place]? = some new →
      (items[place]?.getD .undefined).Padded size new := by
    intro place new given
    obtain ⟨inside, _⟩ := List.getElem?_eq_some_iff.1 given
    have declared := List.getElem?_eq_getElem (show place < schemas.length by omega)
    exact pads _ (List.mem_of_getElem? declared) _ _ _ (sound.element place)
      (each place _ new declared given)
  refine .array ?_ (fun place old new held given => ?_) fun place new past given => ?_
  · -- The array is as long as the tuple now, if it was not before.
    by_cases full : results.length = items.length
    · exact .inl full
    · exact .inr ⟨by omega, length ▸ sized⟩
  · have here := padded place new given
    rwa [held, Option.getD_some] at here
  · -- A missing element is checked as undefined.
    have here := padded place new given
    rw [List.getElem?_eq_none past, Option.getD_none] at here
    exact here.of_undefined

end Arrays

/-- A step without a default pads if the steps that it leads to do. -/
theorem Concludes.padded (concluded : Concludes links check schema value parent (.ok accepted))
    (node : OnlyPads size schema) (sound : value.WellFormed)
    (below : ∀ next, Leads links schema next → Pads size check next) :
    value.Padded size accepted := by
  -- Containers pad place by place, and all other nodes hand the value on.
  cases concluded with
  | admitted => exact .same value
  | @shape label _ _ _ _ _ _ _ checked =>
    have noDefaults : label.defaults = none := node.defaultFree
    rw [noDefaults] at checked
    have distinct := ((Value.wellFormed_object _).1 sound).1
    obtain ⟨result, rfl, accepts⟩ := checkShape_eq_ok node.declaredOnce distinct checked
    exact accepts.padded (fun name field declared => below field (.field declared)) sound
  | list _ checked => exact padded_of_list (below _ .element) sound checked
  | tuple _ checked =>
    exact padded_of_tuple (node.sized _ _ _ rfl) (fun item among => below item (.item among)) sound
      checked
  | dict _ checked => exact padded_of_checkDict (below _ .key) (below _ .entry) sound checked
  | alternative _ checked =>
    exact below _ (.alternative (by simp)) value parent accepted sound checked
  | parts checked =>
    -- Each part pads what the parts before it have made of the value.
    exact (passThrough_relates .same .trans (fun part among old new soundOld checkedPart =>
      have padded := below part (.part among) old parent new soundOld checkedPart
      ⟨padded, padded.wellFormed soundOld⟩) sound checked).1
  | target known checked => exact below _ (.target known) value parent accepted sound checked
  | selected checked =>
    exact below _ (.selected value parent) value parent accepted sound checked

/-- Where no node that can be reached has a default, validation pads. -/
theorem pads_validate (depth : Nat) (nodes : Throughout links (OnlyPads size) schema) :
    Pads size (validate links depth) schema := by
  -- The depth decreases with each step, whichever node it leads to.
  induction depth generalizing schema with
  | zero =>
    intro value parent accepted _ checked
    cases checked
  | succ depth ih =>
    intro value parent accepted sound checked
    have concluded := concludes_of_checkEffective checked
    rw [effective_of_defaultFree nodes.here.defaultFree] at concluded
    exact concluded.padded nodes.here sound fun next leads => ih (nodes.below leads)

/-- Where moreover no node is a tuple, validation gives back the value that it accepts. -/
theorem validate_identity {depth : Nat}
    (defaultFree : Throughout links (fun node => node.defaults = none) schema)
    (declaredOnce : Throughout links (fun node => node.declaredNames.Nodup) schema)
    (tupleFree : Throughout links (fun node => ¬ IsTuple node) schema) (sound : value.WellFormed)
    (checked : validate links depth schema value parent = .ok (.ok accepted)) :
    accepted = value := by
  -- Padding to no length at all leaves everything as it is.
  have nodes : Throughout links (OnlyPads fun _ => False) schema := by
    refine fun node reached =>
      ⟨defaultFree node reached, declaredOnce node reached, fun label guard items same => ?_⟩
    exact tupleFree node reached (same ▸ trivial)
  exact (pads_validate depth nodes value parent accepted sound checked).eq_of_no_size
    (fun _ => id) sound

/-- Parts of an intersection leave the well-formed values that they accept as they are. -/
def PartsUnchanging (check : Checker) (schema : Schema) : Prop :=
  ∀ label parts, schema = .intersection label parts → ∀ part ∈ parts, ∀ value parent accepted,
    value.WellFormed → check part value parent = .ok (.ok accepted) → accepted = value

/-- With no tuple beneath an intersection, its parts leave what they accept as it is. -/
theorem partsUnchanging_validate {depth : Nat}
    (defaultFree : Throughout links (fun node => node.defaults = none) schema)
    (declaredOnce : Throughout links (fun node => node.declaredNames.Nodup) schema)
    (tuplesOut : PartsKeepTuplesOut links schema) :
    PartsUnchanging (validate links depth) schema := by
  -- What a part reaches is reached from the intersection too, so nothing below it fills anything in.
  intro label parts same part among value parent accepted sound checked
  subst same
  exact validate_identity (defaultFree.below (.part among)) (declaredOnce.below (.part among))
    (tuplesOut part among) sound checked

/-- Without defaults, whatever validation accepts comes back with its names and their order, with its
elements in their places, and with nothing changed but that an array may have been filled up with
undefined elements to the length of a tuple. Where there is no tuple, it comes back as it was. -/
theorem validate_without_defaults {depth : Nat}
    (defaultFree : Throughout links (fun node => node.defaults = none) schema)
    (declaredOnce : Throughout links (fun node => node.declaredNames.Nodup) schema)
    (sound : value.WellFormed)
    (checked : validate links depth schema value parent = .ok (.ok accepted)) :
    value.Padded
        (fun count => ∃ label guard items,
          Reaches links schema (.tuple label guard items) ∧ items.length = count) accepted ∧
      (Throughout links (fun node => ¬ IsTuple node) schema → accepted = value) := by
  refine ⟨?_, fun tupleFree =>
    validate_identity defaultFree declaredOnce tupleFree sound checked⟩
  -- The lengths to fill up to are those of the tuples that can be reached.
  refine pads_validate depth (fun node reached => ?_) value parent accepted sound checked
  refine ⟨defaultFree node reached, declaredOnce node reached, fun label guard items same => ?_⟩
  exact ⟨label, guard, items, same ▸ reached, rfl⟩

/-- A scalar that accepts whatever it is asked about. -/
def unjudged : Schema :=
  .scalar ⟨"unjudged", none⟩ fun _ _ => .pass

/-- A tuple of two values of any sort. -/
def pair : Schema :=
  .tuple ⟨"pair", none⟩ (Registry.hasTag .array) [unjudged, unjudged]

/-- A list of pairs, which are declared by way of a reference. -/
def pairList : Schema :=
  .list ⟨"[pair]", none⟩ (Registry.hasTag .array) (.lazy 0)

/-- The pair that a list of pairs refers to. -/
def pairLinks : Links :=
  [(0, pair)]

/-- The nodes of a list of pairs. -/
theorem throughout_pairList : Throughout pairLinks
    (fun node => node = pairList ∨ node = .lazy 0 ∨ node = pair ∨ node = unjudged) pairList := by
  -- The list leads to the reference, the reference to the pair, and the pair to its halves.
  refine .of_closed _ (.inl rfl) (fun node next among leads => ?_) fun _ among => among
  rcases among with rfl | rfl | rfl | rfl
  · cases leads
    exact .inr (.inl rfl)
  · cases leads with
    | target known =>
      cases known
      exact .inr (.inr (.inl rfl))
  · cases leads with
    | item among => exact .inr (.inr (.inr (by simpa using among)))
  · cases leads

/-- A list of pairs fills up a pair that lacks its second half. -/
theorem validate_without_defaults_pairList :
    (Value.array [.array [.string "x"]]).Padded
      (fun count => ∃ label guard items,
        Reaches pairLinks pairList (.tuple label guard items) ∧ items.length = count)
      (.array [.array [.string "x", .undefined]]) := by
  -- The list accepts one pair of two, and no node of it has a default or declares a name.
  have checked : validate pairLinks 4 pairList (.array [.array [.string "x"]]) none =
      .ok (.ok (.array [.array [.string "x", .undefined]])) := rfl
  refine (validate_without_defaults (throughout_pairList.imp fun node among => ?_)
    (throughout_pairList.imp fun node among => ?_) (by simp) checked).1
  · rcases among with rfl | rfl | rfl | rfl <;> rfl
  · rcases among with rfl | rfl | rfl | rfl <;> exact List.nodup_nil

end Conform.Schema
