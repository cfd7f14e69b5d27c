import Conform.Proofs.Schema.Coercion
import Conform.Proofs.Schema.Kept
import Conform.Proofs.Schema.Parent

/-! Validating what validation has accepted changes nothing any more. -/

namespace Conform.Schema

/-- The children of a union or an intersection that come after its first. -/
def laterChildren : Schema → List Schema
  | union _ alternatives => alternatives.tail
  | intersection _ parts => parts.tail
  | _ => []

/-- No node that can be reached has a default or is a tuple. -/
def CoercionFree (links : Links) (schema : Schema) : Prop :=
  Throughout links (fun node => node.defaults = none ∧ ¬ IsTuple node) schema

/-- A checker accepts what it has accepted, in whatever container, and gives it back as it is. -/
def Settles (check : Checker) (schema : Schema) : Prop :=
  ∀ value parent other accepted, value.WellFormed →
    check schema value parent = .ok (.ok accepted) →
    check schema accepted other = .ok (.ok accepted)

variable {links : Links} {check : Checker} {schema : Schema} {value accepted : Value}
  {parent other : Option Value}

section Shapes

variable {mode : ShapeMode} {defaults : Option Defaults} {fields : Members Schema}
  {members result : Members Value} {name : String}

/-- A defined value under a name needs no default. -/
theorem candidate_of_defined (held : members.get? name = some value)
    (defined : value.isUndefined = false) : candidate defaults members name = value := by
  -- A default would only replace what is undefined.
  unfold candidate fieldValue
  cases defaults <;> simp [held, defined]

/-- Under a name that holds nothing defined, the default alone decides. -/
theorem candidate_of_undefined
    (undefined : ∀ value, members.get? name = some value → value = .undefined) :
    candidate defaults members name =
      (defaults.map fun given => given.resolveField name (.object members)).getD .undefined := by
  -- Whether the name is absent or undefined makes no difference here.
  unfold candidate fieldValue
  cases held : members.get? name with
  | none => cases defaults <;> rfl
  | some value =>
    rw [undefined value held]
    cases defaults <;> rfl

/-- Where a name is examined as undefined, it holds nothing defined. -/
theorem eq_undefined_of_candidate (absent : candidate defaults members name = .undefined) :
    ∀ value, members.get? name = some value → value = .undefined := by
  intro value held
  -- Something defined would have been examined itself.
  cases defined : value.isUndefined with
  | false => rw [← candidate_of_defined held defined, absent]
  | true => exact Value.isUndefined_iff.1 defined

/-- An object is accepted as it is, if all its names are declared or free, and if every field accepts
what is checked under its name, which is what the object holds there. -/
theorem checkShape_of_fixed (declaredOnce : fields.names.Nodup) (distinct : members.names.Nodup)
    (known : mode ≠ .extensible → ∀ name ∈ members.names, name ∈ fields.names)
    (fixed : ∀ name field, (name, field) ∈ fields → ¬ Skips mode defaults members name →
      check field (candidate defaults members name) (some (.object members)) =
          .ok (.ok (candidate defaults members name)) ∧
        ((candidate defaults members name).isUndefined = false →
          members.get? name = some (candidate defaults members name))) :
    checkShape check mode defaults fields members = .ok (.ok (.object members)) := by
  -- Every slot accepts, so the object is accepted as some object.
  have accepting : ∀ slot ∈ shapeSlots mode defaults fields members,
      ∃ value, slot.Accepts check (.object members) value := by
    intro slot among
    rcases (mem_shapeSlots declaredOnce distinct).1 among with
      ⟨name, value, held, undeclared, strict, rfl⟩ | ⟨name, field, declared, examined, rfl⟩
    · exact absurd (known strict name (Members.mem_names held)) undeclared
    · exact ⟨_, field, rfl, (fixed name field declared examined).1⟩
  obtain ⟨value, checked⟩ := checkShape_of_accepting accepting
  obtain ⟨last, rfl, accepts⟩ := checkShape_eq_ok declaredOnce distinct checked
  -- That object holds the same under each name.
  have same : ∀ name, Members.get? last name = members.get? name := by
    intro name
    by_cases declared : name ∈ fields.names
    · obtain ⟨field, declared⟩ := Members.exists_of_mem_names declared
      by_cases skips : Skips mode defaults members name
      · rw [accepts.skipped name skips, Members.get?_of_not_mem skips.2.1]
      · -- The field gives back the value that it is asked about.
        obtain ⟨fixedValue, held⟩ := fixed name field declared skips
        obtain ⟨value, checkedField, read⟩ := accepts.examined name field declared skips
        rw [fixedValue] at checkedField
        cases checkedField
        rw [read]
        cases defined : (candidate defaults members name).isUndefined with
        | false => simp [held defined]
        | true =>
          -- An undefined value is kept exactly where something was held already.
          have undefined := Value.isUndefined_iff.1 defined
          have nothing := eq_undefined_of_candidate undefined
          rw [undefined]
          cases there : members.get? name with
          | none => simp [Members.contains, there]
          | some value => simp [Members.contains, there, nothing value there]
    · exact accepts.undeclared name declared
  -- So it has the same names in the same order, and is the same object.
  have sameNames : Members.names last = members.names := accepts.names_eq fun name lacking => by
    rw [same, Members.get?_of_not_mem lacking]
  rw [checked, Members.ext_get? accepts.distinct sameNames fun name _ => same name]

/-- What the check of a field has come to is what is checked there the next time. -/
theorem candidate_result (ignores : ∀ given, defaults = some given → given.IgnoresParent)
    (kept : (candidate defaults members name).Kept value)
    (read : result.get? name =
      if members.contains name || !value.isUndefined then some value else none) :
    candidate defaults result name = value := by
  cases defined : value.isUndefined with
  | false =>
    simp only [defined, Bool.not_false, Bool.or_true, if_true] at read
    exact candidate_of_defined read defined
  | true =>
    obtain rfl := Value.isUndefined_iff.1 defined
    -- The default was of no help the first time, and it is not the second time.
    have before := kept.eq_undefined
    rw [candidate_of_undefined (eq_undefined_of_candidate before)] at before
    -- The object that was made holds nothing defined under the name.
    have nothing : ∀ held, result.get? name = some held → held = .undefined := by
      intro held found
      rw [read] at found
      split at found
      · exact (Option.some.inj found).symm
      · cases found
    rw [candidate_of_undefined nothing]
    cases defaults with
    | none => rfl
    | some given =>
      have same := (ignores given rfl).resolveField_eq name (.object members) (.object result)
      simp only [Option.map_some, Option.getD_some] at before ⊢
      rw [← same, before]

/-- A name that was skipped is skipped the next time. -/
theorem ShapeAccepts.skips_result
    (accepts : ShapeAccepts check mode defaults fields members result)
    (ignores : ∀ given, defaults = some given → given.IgnoresParent)
    (skips : Skips mode defaults members name) : Skips mode defaults result name := by
  -- Nothing was put under the name, and its default comes to nothing again.
  have absent := accepts.skipped name skips
  obtain ⟨sparse, lacking, undefined⟩ := skips
  have examined : Value.Kept (candidate defaults members name) .undefined := by
    rw [Value.isUndefined_iff.1 undefined]
    exact .same _
  have unheld : members.contains name = false := by
    simpa [← Members.contains_iff] using lacking
  have again : candidate defaults result name = .undefined :=
    candidate_result ignores examined (by simp [absent, unheld, Value.isUndefined])
  exact ⟨sparse, (Members.get?_eq_none_iff result name).1 absent, Value.isUndefined_iff.2 again⟩

/-- The checks of a shape's fields settle and keep what they accept, its default does not look at the
container, and its candidates are well-formed. -/
structure FieldsSettle (check : Checker) (defaults : Option Defaults) (fields : Members Schema)
    (members : Members Value) : Prop where
  declaredOnce : fields.names.Nodup
  -- A default that looks at the container would see it completed the second time.
  ignores : ∀ given, defaults = some given → given.IgnoresParent
  sound : ∀ name, (candidate defaults members name).WellFormed
  kept : ∀ name field, (name, field) ∈ fields → ∀ value parent accepted,
    check field value parent = .ok (.ok accepted) → value.Kept accepted
  settles : ∀ name field, (name, field) ∈ fields → Settles check field

/-- Every field that is examined again was examined before, and gives back what came out of that. -/
theorem ShapeAccepts.examined_again
    (accepts : ShapeAccepts check mode defaults fields members result)
    (settle : FieldsSettle check defaults fields members) {field : Schema}
    (declared : (name, field) ∈ fields) (examined : ¬ Skips mode defaults result name) :
    ∃ value, candidate defaults result name = value ∧
      check field value (some (.object result)) = .ok (.ok value) ∧
      result.get? name =
        if members.contains name || !value.isUndefined then some value else none := by
  -- A name that was skipped before is skipped again, so this one was not.
  obtain ⟨value, checked, read⟩ := accepts.examined name field declared fun skips =>
    examined (accepts.skips_result settle.ignores skips)
  have kept := settle.kept name field declared _ _ _ checked
  exact ⟨value, candidate_result settle.ignores kept read,
    settle.settles name field declared _ _ _ _ (settle.sound name) checked, read⟩

/-- Where names are not free, all names of an accepted object are declared. -/
theorem ShapeAccepts.known_result
    (accepts : ShapeAccepts check mode defaults fields members result)
    (strict : mode ≠ .extensible) : ∀ name ∈ result.names, name ∈ fields.names := by
  intro name held
  obtain ⟨added, names, among⟩ := accepts.names
  rw [names] at held
  -- A name was there before, or it is one of the declared names that were added.
  rcases List.mem_append.1 held with held | follows
  · exact accepts.known strict name held
  · exact among.subset follows

/-- What a shape has made of an object is accepted again, as it is. -/
theorem ShapeAccepts.again (accepts : ShapeAccepts check mode defaults fields members result)
    (settle : FieldsSettle check defaults fields members) :
    checkShape check mode defaults fields result = .ok (.ok (.object result)) := by
  -- The result holds declared names alone where it has to, and each of them what came out of its
  -- check.
  refine checkShape_of_fixed settle.declaredOnce accepts.distinct accepts.known_result ?_
  intro name field declared examined
  obtain ⟨value, given, checked, read⟩ := accepts.examined_again settle declared examined
  rw [given]
  refine ⟨checked, fun defined => ?_⟩
  simpa [defined] using read

end Shapes

section Containers

variable {items : List Value} {members : Members Value}

/-- What a list has made of an array is accepted again. -/
theorem list_again {element : Schema} (sound : (Value.array items).WellFormed)
    (settles : Settles check element)
    (checked : checkItems check items (listSlots element items) = .ok (.ok accepted)) :
    ∃ results, accepted = .array results ∧
      checkItems check results (listSlots element results) = .ok (.ok (.array results)) := by
  obtain ⟨results, rfl, each⟩ := checkItems_list_eq_ok_iff.1 checked
  -- Each result has come from an element, and is given back by the same schema.
  refine ⟨results, rfl, checkItems_list_eq_ok_iff.2 ⟨results, rfl, ?_⟩⟩
  refine List.forall₂_same.2 fun result given => ?_
  obtain ⟨item, held, checkedItem⟩ := exists_related each.flip result given
  exact settles _ _ _ _ ((Value.wellFormed_array items).1 sound item held) checkedItem

/-- What a tuple has made of an array is as long as the tuple, and is accepted again. -/
theorem tuple_again {schemas : List Schema} (sound : (Value.array items).WellFormed)
    (settles : ∀ schema ∈ schemas, Settles check schema)
    (checked : checkItems check items (tupleSlots schemas items) = .ok (.ok accepted)) :
    ∃ results, accepted = .array results ∧
      checkItems check results (tupleSlots schemas results) = .ok (.ok (.array results)) := by
  obtain ⟨_, results, rfl, length, each⟩ := checkItems_tuple_eq_ok_iff.1 checked
  -- Nothing is missing the second time, since there is a result for every place.
  refine ⟨results, rfl, checkItems_tuple_eq_ok_iff.2
    ⟨by omega, results, rfl, length, fun place schema result declared given => ?_⟩⟩
  rw [given, Option.getD_some]
  exact settles schema (List.mem_of_getElem? declared) _ _ _ _ (sound.element place)
    (each place schema result declared given)

/-- What a dictionary has made of an object has the same names, and is accepted again. -/
theorem dict_again {key item : Schema} (sound : (Value.object members).WellFormed)
    (kept : ∀ name parent result,
      check key (.string name) parent = .ok (.ok result) → result = .string name)
    (settlesKey : Settles check key) (settlesItem : Settles check item)
    (checked : checkDict check key item members = .ok (.ok accepted)) :
    ∃ results : Members Value, accepted = .object results ∧ results.names = members.names ∧
      checkDict check key item results = .ok (.ok (.object results)) := by
  have ⟨distinct, values⟩ := (Value.wellFormed_object members).1 sound
  obtain ⟨results, rfl, each⟩ :=
    (checkDict_eq_ok_iff_of_kept distinct fun name => kept name _).1 checked
  have sameNames : Members.names results = members.names := names_of_related each
  -- Under the same names, each result is given back by the schema that it came from.
  refine ⟨results, rfl, sameNames,
    (checkDict_eq_ok_iff_of_kept (sameNames ▸ distinct) fun name => kept name _).2
      ⟨results, rfl, ?_⟩⟩
  refine List.forall₂_same.2 fun result given => ⟨rfl, ?_⟩
  obtain ⟨⟨name, value⟩, held, same, checkedKey, checkedItem⟩ := exists_related each.flip _ given
  rw [same]
  exact ⟨settlesKey _ _ _ _ (Value.wellFormed_string name) checkedKey,
    settlesItem _ _ _ _ (values name value held) checkedItem⟩

end Containers

/-- A node at which coercion settles: names are distinct, nothing looks at the container or selects by
it, containers stand behind built-in guards, and later children do not coerce. -/
structure Settling (links : Links) (node : Schema) : Prop where
  distinct : node.NamesDistinct
  ignores : node.IgnoresParent
  builtin : BuiltinGuard node
  static : ¬ IsDynamic node
  -- What a later child makes of the value, the first sees only the second time.
  later : ∀ child ∈ node.laterChildren, CoercionFree links child

/-- What the steps that a node leads to do again with what they have accepted. -/
structure SettlesBelow (links : Links) (check : Checker) (schema : Schema) : Prop where
  settles : ∀ next, Leads links schema next → Settles check next
  kept : ∀ next, Leads links schema next → ∀ value parent accepted,
    check next value parent = .ok (.ok accepted) → value.Kept accepted
  wellFormed : ∀ next, Leads links schema next → KeepsWellFormed check next
  ignores : ∀ next, Leads links schema next → ∀ value parent other,
    check next value parent = check next value other
  unchanging : ∀ child ∈ schema.laterChildren, ∀ value parent accepted, value.WellFormed →
    check child value parent = .ok (.ok accepted) → accepted = value

/-- What a node that merges has accepted is an object that begins with the names it was given. -/
theorem Concludes.names_append (concluded : Concludes links check schema value parent (.ok accepted))
    (merges : schema.Merges) (declaredOnce : schema.declaredNames.Nodup) (sound : value.WellFormed)
    (kept : ∀ next, Leads links schema next → ∀ value parent accepted,
      check next value parent = .ok (.ok accepted) → value.Kept accepted) :
    ∃ members result : Members Value, ∃ added, value = .object members ∧
      accepted = .object result ∧ result.names.Nodup ∧ result.names = members.names ++ added := by
  -- A shape may add declared names at the end, and a dictionary adds none.
  cases concluded with
  | @shape label mode guard fields members _ _ _ checked =>
    obtain ⟨distinct, _⟩ := (Value.wellFormed_object members).1 sound
    obtain ⟨result, rfl, accepts⟩ := checkShape_eq_ok declaredOnce distinct checked
    obtain ⟨added, names, _⟩ := accepts.names
    exact ⟨members, result, added, rfl, rfl, accepts.distinct, names⟩
  | @dict label guard key item members _ _ _ checked =>
    obtain ⟨distinct, _⟩ := (Value.wellFormed_object members).1 sound
    obtain ⟨results, rfl, each⟩ := (checkDict_eq_ok_iff_of_kept distinct
      fun name result checkedKey => (kept _ .key _ _ _ checkedKey).of_string).1 checked
    have sameNames : Members.names results = members.names := names_of_related each
    exact ⟨members, results, [], rfl, rfl, sameNames ▸ distinct, by rw [sameNames, List.append_nil]⟩
  | admitted leaf =>
    cases schema with
    | shape | dict => exact leaf.elim
    | _ => exact merges.elim
  | list | tuple | alternative | parts | target | selected => exact merges.elim

/-- The default of a node does nothing to a value that the node has accepted. -/
theorem effective_accepted (node : Settling links schema) (below : SettlesBelow links check schema)
    (sound : value.WellFormed)
    (concluded : Concludes links check schema (schema.effective value parent) parent (.ok accepted)) :
    schema.effective accepted other = accepted := by
  have soundEffective := wellFormed_effective node.distinct.defaults sound parent
  cases given : schema.defaults with
  | none => exact effective_of_defaultFree given accepted other
  | some defaults =>
    by_cases merges : schema.Merges
    · -- The merged object begins with the names of the default, and so does what came out of it.
      obtain ⟨members, result, added, merged, rfl, distinct, names⟩ :=
        concluded.names_append merges node.distinct.declared soundEffective below.kept
      rw [effective_of_merges merges given] at merged ⊢
      exact Defaults.mergeUnder_of_names_append sound merged distinct names
    · rw [effective_of_not_merges merges given] at concluded ⊢
      split
      · rename_i undefined
        obtain rfl := Value.isUndefined_iff.1 undefined
        -- Only an undefined default can have left the value undefined, and it is undefined again.
        have before := (concluded.kept below.kept).eq_undefined
        split at before
        · rw [← before]
          exact (node.ignores.defaults defaults given).resolve_eq other parent
        · rename_i defined
          rw [before] at defined
          exact absurd rfl defined
      · rfl

/-- What a step has accepted it accepts again, if the steps that it leads to do. -/
theorem Concludes.again (concluded : Concludes links check schema value parent (.ok accepted))
    (node : Settling links schema) (below : SettlesBelow links check schema)
    (sound : value.WellFormed) : Concludes links check schema accepted other (.ok accepted) := by
  cases concluded with
  | admitted leaf admits =>
    -- The value has not changed, and a predicate says the same about it wherever it stands.
    refine .admitted leaf ?_
    cases schema with
    | scalar label predicate | custom label predicate =>
      have same := node.ignores.predicates predicate (by simp [predicates]) value other parent
      simpa only [Admits, same] using admits
    | enumeration | literal | instanceOf => exact admits
    | shape | list | tuple | dict | union | intersection | lazy | dynamic => exact leaf.elim
  | @shape label mode guard fields members _ _ _ checked =>
    obtain ⟨distinct, _⟩ := (Value.wellFormed_object members).1 sound
    obtain ⟨result, rfl, accepts⟩ := checkShape_eq_ok node.distinct.declared distinct checked
    -- The built-in guard lets the object in that was made, whatever it holds.
    refine .shape (isPass_of_builtin_object node.builtin result none) ?_
    exact accepts.again ⟨node.distinct.declared, node.ignores.defaults,
      wellFormed_candidate node.distinct.defaults sound,
      fun name field declared => below.kept field (.field declared),
      fun name field declared => below.settles field (.field declared)⟩
  -- The guard lets an array in, and each element gives itself back.
  | list _ checked =>
    obtain ⟨results, rfl, again⟩ := list_again sound (below.settles _ .element) checked
    exact .list (isPass_of_builtin_array node.builtin results none) again
  -- The array is as long as the tuple now, and each place gives itself back.
  | tuple _ checked =>
    obtain ⟨results, rfl, again⟩ :=
      tuple_again sound (fun item among => below.settles item (.item among)) checked
    exact .tuple (isPass_of_builtin_array node.builtin results none) again
  -- The names are texts, which come back as they are.
  | dict _ checked =>
    obtain ⟨results, rfl, _, again⟩ := dict_again sound
      (fun name parent result checkedKey => (below.kept _ .key _ _ _ checkedKey).of_string)
      (below.settles _ .key) (below.settles _ .entry) checked
    exact .dict (isPass_of_builtin_object node.builtin results none) again
  | @alternative label before alternative after _ _ _ earlier checked =>
    have among : alternative ∈ before ++ alternative :: after := by simp
    have again := below.settles alternative (.alternative among) value parent other accepted sound
      checked
    refine .alternative (fun schema found => ?_) again
    cases before with
    | nil => cases found
    | cons first rest =>
      -- A later alternative has not changed the value, so those before it refuse it as they did.
      obtain rfl := below.unchanging alternative (by simp [laterChildren]) value parent accepted
        sound checked
      obtain ⟨error, refused⟩ := earlier schema found
      have leads : Leads links (.union label (first :: rest ++ alternative :: after)) schema :=
        .alternative (List.mem_append_left _ found)
      exact ⟨error, below.ignores schema leads _ other parent ▸ refused⟩
  | @parts label parts _ _ _ checked =>
    refine .parts ?_
    cases parts with
    | nil =>
      cases checked
      rfl
    | cons first rest =>
      -- Only the first part can have changed the value, and each of the others has accepted that.
      obtain ⟨middle, checkedFirst, continued⟩ := passThrough_cons_eq_ok_iff.1 checked
      have soundMiddle := below.wellFormed first (.part List.mem_cons_self) value parent middle sound
        checkedFirst
      obtain ⟨rfl, each⟩ := passThrough_ok_of_unchanged (fun part among passed =>
        below.unchanging part among middle parent passed soundMiddle) continued
      refine passThrough_of_fixed fun part among => ?_
      rcases List.mem_cons.1 among with rfl | later
      · exact below.settles part (.part among) value parent other accepted sound checkedFirst
      · exact below.ignores part (.part among) accepted other parent ▸ each part later
  | target known checked =>
    exact .target known (below.settles _ (.target known) value parent other accepted sound checked)
  | selected => exact absurd trivial node.static

/-- Where coercion settles at every node that can be reached, validation settles. -/
theorem settles_validate (depth : Nat) (nodes : Throughout links (Settling links) schema) :
    Settles (validate links depth) schema := by
  -- The depth decreases with each step, and the second validation goes as deep as the first.
  induction depth generalizing schema with
  | zero =>
    intro value parent other accepted _ checked
    cases checked
  | succ depth ih =>
    intro value parent other accepted sound checked
    have below : SettlesBelow links (validate links depth) schema := by
      refine ⟨fun next leads => ih (nodes.below leads), fun _ _ _ _ _ => kept_validate,
        fun next leads => ?_, fun next leads value parent other => ?_, ?_⟩
      · exact wellFormed_validate depth ((nodes.below leads).imp fun _ node => node.distinct)
      · exact validate_eq_of_ignoresParent depth
          ((nodes.below leads).imp fun _ node => node.ignores)
          ((nodes.below leads).imp fun _ node => node.static) value parent other
      · -- A later child is free of coercion, so it leaves the values that it accepts as they are.
        intro child among value parent accepted sound checked
        have leads : Leads links schema child := by
          cases schema with
          | union => exact .alternative (List.mem_of_mem_tail among)
          | intersection => exact .part (List.mem_of_mem_tail among)
          | _ => cases among
        have free := nodes.here.later child among
        exact validate_identity (free.imp fun _ node => node.1)
          ((nodes.below leads).imp fun _ node => node.distinct.declared)
          (free.imp fun _ node => node.2) sound checked
    have concluded := concludes_of_checkEffective checked
    have soundEffective := wellFormed_effective nodes.here.distinct.defaults sound parent
    simp only [validate]
    rw [effective_accepted nodes.here below sound concluded]
    exact checkEffective_of_concludes (concluded.again nodes.here below soundEffective)

/-- If nothing is selected by looking at values, if every child but the first of a union or an
intersection is free of coercion, if predicates and defaults do not look at the container, and if
containers stand behind built-in guards, then what validation has accepted it accepts again, in
whatever container, and gives it back as it is. -/
theorem validate_idempotent {depth : Nat}
    (distinct : Throughout links NamesDistinct schema)
    (static : Throughout links (fun node => ¬ IsDynamic node) schema)
    (later : Throughout links (fun node => ∀ child ∈ node.laterChildren, CoercionFree links child)
      schema)
    (ignores : Throughout links IgnoresParent schema)
    (builtin : Throughout links BuiltinGuard schema) (sound : value.WellFormed)
    (checked : validate links depth schema value parent = .ok (.ok accepted)) :
    validate links depth schema accepted other = .ok (.ok accepted) := by
  -- The five conditions make every node settle.
  have nodes : Throughout links (Settling links) schema := fun node reached =>
    ⟨distinct node reached, ignores node reached, builtin node reached, static node reached,
      later node reached⟩
  exact settles_validate depth nodes value parent other accepted sound checked

/-- An object whose name is laid under it, and whose pair is computed and then filled up. -/
def profile : Schema :=
  .shape ⟨"profile", some (.fields [("name", .value (.string "anonymous")),
    ("pair", .compute fun _ => .array [])])⟩ .extensible (Registry.hasTag .object)
    [("name", unjudged), ("pair", pair)]

/-- The nodes of a profile. -/
theorem throughout_profile : Throughout []
    (fun node => node = profile ∨ node = pair ∨ node = unjudged) profile := by
  -- A profile leads to the pair and to what may stand in it, and there it ends.
  refine .of_closed _ (.inl rfl) (fun node next among leads => ?_) fun _ among => among
  rcases among with rfl | rfl | rfl
  · cases leads with
    | field declared =>
      simp only [List.mem_cons, Prod.mk.injEq, List.not_mem_nil, or_false] at declared
      rcases declared with ⟨_, rfl⟩ | ⟨_, rfl⟩
      · exact .inr (.inr rfl)
      · exact .inr (.inl rfl)
  · cases leads with
    | item among => exact .inr (.inr (by simpa using among))
  · cases leads

/-- The default of a profile is well-formed and does not look at any container. -/
theorem defaults_profile : ∀ defaults, profile.defaults = some defaults →
    defaults.WellFormed ∧ defaults.IgnoresParent := by
  -- The table has two entries, one given and one computed from nothing.
  intro defaults given
  cases given
  constructor
  · refine .fields (by simp [Members.names]) fun name default among => ?_
    simp only [List.mem_cons, Prod.mk.injEq, List.not_mem_nil, or_false] at among
    rcases among with ⟨_, rfl⟩ | ⟨_, rfl⟩
    · exact .value (Value.wellFormed_string _)
    · exact .compute fun _ => (Value.wellFormed_array []).2 (by simp)
  · refine .fields fun name default among => ?_
    simp only [List.mem_cons, Prod.mk.injEq, List.not_mem_nil, or_false] at among
    rcases among with ⟨_, rfl⟩ | ⟨_, rfl⟩
    · exact .value
    · exact .compute fun _ _ => rfl

/-- A profile that was made of nothing is accepted again as it is. -/
theorem validate_idempotent_profile :
    validate [] 3 profile .undefined none = .ok (.ok (.object [("name", .string "anonymous"),
        ("pair", .array [.undefined, .undefined])])) ∧
      validate [] 3 profile (.object [("name", .string "anonymous"),
          ("pair", .array [.undefined, .undefined])]) (some .null) =
        .ok (.ok (.object [("name", .string "anonymous"),
          ("pair", .array [.undefined, .undefined])])) := by
  -- The first run is carried out, and the three nodes of the profile meet the conditions.
  have checked : validate [] 3 profile .undefined none =
      .ok (.ok (.object [("name", .string "anonymous"),
        ("pair", .array [.undefined, .undefined])])) := rfl
  refine ⟨checked, validate_idempotent
    (throughout_profile.imp fun node among => ?_) (throughout_profile.imp fun node among => ?_)
    (throughout_profile.imp fun node among => ?_) (throughout_profile.imp fun node among => ?_)
    (throughout_profile.imp fun node among => ?_) Value.wellFormed_undefined checked⟩
  · rcases among with rfl | rfl | rfl
    · exact ⟨by simp [declaredNames, profile, Members.names],
        fun defaults given => (defaults_profile defaults given).1⟩
    · exact ⟨List.nodup_nil, by simp [pair, Schema.defaults, label]⟩
    · exact ⟨List.nodup_nil, by simp [unjudged, Schema.defaults, label]⟩
  · rcases among with rfl | rfl | rfl <;> exact id
  · rcases among with rfl | rfl | rfl <;> simp [laterChildren, profile, pair, unjudged]
  · rcases among with rfl | rfl | rfl
    · refine ⟨fun predicate mine value parent other => ?_,
        fun defaults given => (defaults_profile defaults given).2⟩
      obtain rfl := List.mem_singleton.1 mine
      rfl
    · refine ⟨fun predicate mine value parent other => ?_, by simp [pair, Schema.defaults, label]⟩
      obtain rfl := List.mem_singleton.1 mine
      rfl
    · refine ⟨fun predicate mine value parent other => ?_,
        by simp [unjudged, Schema.defaults, label]⟩
      obtain rfl := List.mem_singleton.1 mine
      rfl
  · rcases among with rfl | rfl | rfl
    · rfl
    · rfl
    · trivial

end Conform.Schema
