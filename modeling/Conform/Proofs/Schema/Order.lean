import Conform.Proofs.Schema.Alike

/-! The order of members, and the order in which names are declared, never decides what is accepted. -/

namespace Conform.Schema

variable {links links' : Links} {check check' : Checker} {schema schema' : Schema}
  {value value' : Value} {parent parent' : Option Value}

/-- Checkers agree on schemas one by one if they agree on each that differs in order alone. -/
theorem agree_each {schemas schemas' : List Schema}
    (each : List.Forall₂ Reordered schemas schemas')
    (below : ∀ next ∈ schemas, ∀ next', next.Reordered next' → Agree check check' next next') :
    List.Forall₂ (Agree check check') schemas schemas' := by
  -- The schemas correspond one by one, and each of the first list is among those that are known.
  have among : List.Forall₂ (fun next next' => next ∈ schemas ∧ next.Reordered next') schemas
      schemas' := (List.forall₂_and_left _ _).2 ⟨fun _ among => among, each⟩
  exact among.imp fun next next' both => below next both.1 next' both.2

/-- Unions whose alternatives are agreed on check alike. -/
theorem union_alike {label label' : Label} {alternatives alternatives' : List Schema}
    (each : List.Forall₂ (Agree check check') alternatives alternatives')
    (sound : value.WellFormed) (values : value.Reordered value')
    (parents : Option.Rel Value.Reordered parent parent') :
    Alike (checkEffective links check (.union label alternatives) value parent)
      (checkEffective links' check' (.union label' alternatives') value' parent') := by
  -- Every alternative is asked about the value as it is.
  have decided : List.Forall₂ (fun next next' =>
      Alike (check next value parent) (check' next' value' parent')) alternatives alternatives' :=
    each.imp fun next next' agree => agree value value' parent parent' sound values parents
  exact (firstAccepting_alike decided none none).andThen (fun _ => rfl) (fun _ => rfl)
    (fun _ => ⟨_, rfl⟩) fun _ => ⟨_, rfl⟩

/-- Intersections whose parts are agreed on, and keep values well-formed, check alike. -/
theorem intersection_alike {label label' : Label} {parts parts' : List Schema}
    (each : List.Forall₂ (Agree check check') parts parts')
    (stays : ∀ part ∈ parts, KeepsWellFormed check part)
    (sound : value.WellFormed) (values : value.Reordered value')
    (parents : Option.Rel Value.Reordered parent parent') :
    Alike (checkEffective links check (.intersection label parts) value parent)
      (checkEffective links' check' (.intersection label' parts') value' parent') := by
  -- Each part is asked about what those before it have made of the value, whatever that is.
  have decided : List.Forall₂ (fun next next' => ∀ value value', value.WellFormed →
      value.Reordered value' → Alike (check next value parent) (check' next' value' parent'))
      parts parts' :=
    each.imp fun next next' agree value value' sound values =>
      agree value value' parent parent' sound values parents
  have passed := passThrough_alike decided
    (fun part among value accepted => stays part among value parent accepted) sound values
  exact passed.andThen (fun _ => rfl) (fun _ => rfl) (fun _ => ⟨_, rfl⟩) fun _ => ⟨_, rfl⟩

/-- References whose targets are agreed on check alike, known or not. -/
theorem lazy_alike {reference : Nat} (linked : links.Reordered links')
    (below : ∀ next next', links.get? reference = some next → next.Reordered next' →
      Agree check check' next next')
    (sound : value.WellFormed) (values : value.Reordered value')
    (parents : Option.Rel Value.Reordered parent parent') :
    Alike (checkEffective links check (.lazy reference) value parent)
      (checkEffective links' check' (.lazy reference) value' parent') := by
  -- A reference is known on both sides or on neither.
  have target := linked reference
  simp only [checkEffective]
  cases known : links.get? reference with
  | none =>
    rw [known] at target
    generalize links'.get? reference = found at target ⊢
    cases target
    exact .stopped
  | some next =>
    rw [known] at target
    generalize links'.get? reference = found at target ⊢
    cases target with
    | some schemas => exact below next _ known schemas _ _ _ _ sound values parents

/-- A step checks values that differ in order alone alike, against nodes that do, if the steps that it
leads to do. -/
theorem Reordered.checkEffective_alike (schemas : schema.Reordered schema')
    (linked : links.Reordered links') (node : NamesDistinct schema) (blind : OrderBlind schema)
    (kept : ∀ schema name parent result, check schema (.string name) parent = .ok (.ok result) →
      result = .string name)
    (kept' : ∀ schema name parent result, check' schema (.string name) parent = .ok (.ok result) →
      result = .string name)
    (stays : ∀ next, Leads links schema next → KeepsWellFormed check next)
    (below : ∀ next next', Leads links schema next → next.Reordered next' →
      Agree check check' next next')
    (sound : value.WellFormed) (values : value.Reordered value')
    (parents : Option.Rel Value.Reordered parent parent') :
    Alike (checkEffective links check schema value parent)
      (checkEffective links' check' schema' value' parent') := by
  -- Guards are asked without a container, and all other predicates with it.
  have verdicts : ∀ predicate ∈ schema.predicates,
      (predicate value parent).isPass = (predicate value' parent').isPass :=
    fun predicate mine => blind.predicates predicate mine _ _ _ _ values parents
  have guards : ∀ guard ∈ schema.predicates,
      (guard value none).isPass = (guard value' none).isPass :=
    fun guard mine => blind.predicates guard mine _ _ _ _ values .none
  -- Containers are compared place by place, and the other nodes ask or hand on the value itself.
  cases schemas with
  | scalar => exact judge_alike (verdicts _ (List.mem_singleton_self _)) values true
  | custom => exact judge_alike (verdicts _ (List.mem_singleton_self _)) values false
  | @shape label other mode guard fields fields' defaults names each =>
    have opens := guards _ (List.mem_singleton_self _)
    refine object_alike rfl rfl opens values fun members members' same same' => ?_
    subst same same'
    rw [defaults]
    exact checkShape_alike node.declared names node.defaults blind.defaults sound values
      fun name schema schema' declared declared' =>
        below _ _ (.field (Members.mem_of_get? declared)) (each name schema schema' declared declared')
  | list _ elements =>
    have opens := guards _ (List.mem_singleton_self _)
    refine array_alike rfl rfl opens values fun items items' same same' => ?_
    subst same same'
    exact checkList_alike sound values (below _ _ .element elements)
  | tuple _ each =>
    have opens := guards _ (List.mem_singleton_self _)
    refine array_alike rfl rfl opens values fun items items' same same' => ?_
    subst same same'
    exact checkTuple_alike sound values
      (agree_each each fun next among next' => below next next' (.item among))
  | dict _ keys items =>
    have opens := guards _ (List.mem_singleton_self _)
    refine object_alike rfl rfl opens values fun members members' same same' => ?_
    subst same same'
    exact checkDict_alike sound values (fun name => kept _ name _) (fun name => kept' _ name _)
      (below _ _ .key keys) (below _ _ .entry items)
  | enumeration => exact accept_alike (by simp only [includes_eq _ values]) values
  | union _ each =>
    exact union_alike (agree_each each fun next among next' => below next next' (.alternative among))
      sound values parents
  | intersection _ each =>
    exact intersection_alike
      (agree_each each fun next among next' => below next next' (.part among))
      (fun part among => stays part (.part among)) sound values parents
  | literal => exact accept_alike (strictlyEquals_eq _ values) values
  | instanceOf =>
    -- Only host objects are accepted, and their order is not changed.
    cases values with
    | same =>
      simp only [checkEffective]
      split
      · split
        · exact .accepted (.same _)
        · exact .refused
      · exact .refused
    | object | array => exact .refused
  -- Both references lead to schemas that differ in order alone, or nowhere.
  | lazy reference =>
    exact lazy_alike linked (fun next next' known => below next next' (.target known)) sound values
      parents
  -- What is selected differs in order alone.
  | dynamic _ selected =>
    exact below _ _ (.selected value parent) (selected _ _ _ _ values parents) _ _ _ _ sound values
      parents

/-- Validation checks values that differ in order alone alike, against schemas that do. -/
theorem Reordered.validate_alike (depth : Nat) (schemas : schema.Reordered schema')
    (linked : links.Reordered links') (nodes : Throughout links NamesDistinct schema)
    (blind : Throughout links OrderBlind schema) :
    Agree (validate links depth) (validate links' depth) schema schema' := by
  -- The depth decreases with each step, whichever node it leads to.
  induction depth generalizing schema schema' with
  | zero =>
    intro value value' parent parent' _ _ _
    exact .stopped
  | succ depth ih =>
    intro value value' parent parent' sound values parents
    exact schemas.checkEffective_alike linked nodes.here blind.here
      (fun _ _ _ _ checked => (kept_validate checked).of_string)
      (fun _ _ _ _ checked => (kept_validate checked).of_string)
      (fun next leads => wellFormed_validate depth (nodes.below leads))
      (fun next next' leads schemas => ih schemas (nodes.below leads) (blind.below leads))
      (wellFormed_effective nodes.here.defaults sound parent)
      (schemas.effective nodes.here blind.here sound values parents) parents

/-- Values that differ only in the order of members are accepted by schemas that differ only in the
order of their declarations, or by neither, and so are they refused; and what is accepted differs only
in the order of members. This asks that predicates, selectors and computed defaults tell no such values
apart. -/
theorem validate_ignores_order (depth : Nat) (schemas : schema.Reordered schema')
    (linked : links.Reordered links') (nodes : Throughout links NamesDistinct schema)
    (blind : Throughout links OrderBlind schema) (sound : value.WellFormed)
    (values : value.Reordered value') (parents : Option.Rel Value.Reordered parent parent') :
    ((∃ accepted, validate links depth schema value parent = .ok (.ok accepted)) ↔
      ∃ accepted', validate links' depth schema' value' parent' = .ok (.ok accepted')) ∧
    ((∃ error, validate links depth schema value parent = .ok (.error error)) ↔
      ∃ error', validate links' depth schema' value' parent' = .ok (.error error')) ∧
    ∀ accepted accepted', validate links depth schema value parent = .ok (.ok accepted) →
      validate links' depth schema' value' parent' = .ok (.ok accepted') →
        accepted.Reordered accepted' := by
  have alike := schemas.validate_alike depth linked nodes blind value value' parent parent' sound
    values parents
  refine ⟨?_, ?_, fun accepted accepted' => alike.reordered⟩
  -- Being accepted and being refused are fates, and these are the same.
  · rw [← Fate.of_eq_accepted_iff, ← Fate.of_eq_accepted_iff, alike.fate_eq]
  · rw [← Fate.of_eq_refused_iff, ← Fate.of_eq_refused_iff, alike.fate_eq]

/-- A text. -/
def text : Schema :=
  .scalar ⟨"string", none⟩ (Registry.hasTag .string)

/-- An account with texts under some names, and a role unless it has one. -/
def account (names : List String) : Schema :=
  .shape ⟨"account", some (.fields [("role", .value (.string "guest"))])⟩ .extensible
    (Registry.hasTag .object) (names.map fun name => (name, text))

/-- The members of an account without a role. -/
def visitor : Members Value :=
  [("nick", .string "A"), ("name", .string "Ada")]

/-- Accounts that declare two names in either order differ in order alone. -/
theorem account_reordered (first second : String) :
    (account [first, second]).Reordered (account [second, first]) := by
  refine .shape rfl (.swap _ _ _) fun name schema schema' declared declared' => ?_
  -- Every declared name stands for a text.
  obtain ⟨_, _, same⟩ := List.mem_map.1 (Members.mem_of_get? declared)
  obtain ⟨_, _, same'⟩ := List.mem_map.1 (Members.mem_of_get? declared')
  cases same
  cases same'
  exact .scalar rfl

/-- The members of an account may stand in the opposite order. -/
theorem visitor_reordered : (Value.object visitor).Reordered (.object visitor.reverse) := by
  refine .of_get? (by simp [visitor, Members.names]) (by simp [visitor, Members.names])
    fun name => ?_
  -- Both names stand for the same on either side, and all others stand for nothing.
  by_cases nick : name = "nick"
  · subst nick
    exact .some (.same _)
  · by_cases given : name = "name"
    · subst given
      exact .some (.same _)
    · have absent : Members.get? visitor name = none := by
        simp [visitor, Members.get?, nick, given]
      have absent' : Members.get? visitor.reverse name = none := by
        simp [visitor, Members.get?, nick, given]
      rw [absent, absent']
      exact .none

/-- The members of an account are well-formed. -/
theorem wellFormed_visitor : (Value.object visitor).WellFormed := by
  -- Two names are held, with texts under them.
  rw [Value.wellFormed_object]
  refine ⟨by simp [visitor, Members.names], fun name value held => ?_⟩
  simp only [visitor, List.mem_cons, Prod.mk.injEq, List.not_mem_nil, or_false] at held
  rcases held with ⟨_, rfl⟩ | ⟨_, rfl⟩ <;> exact Value.wellFormed_string _

/-- An account leads to texts alone. -/
theorem throughout_account (names : List String) :
    Throughout [] (fun node => node = account names ∨ node = text) (account names) := by
  -- Every field of an account is a text, and a text leads nowhere.
  refine .of_closed _ (.inl rfl) (fun node next among leads => ?_) fun _ among => among
  rcases among with rfl | rfl
  · cases leads with
    | field declared =>
      obtain ⟨_, _, same⟩ := List.mem_map.1 declared
      cases same
      exact .inr rfl
  · cases leads

/-- The names of an account are distinct if those that it declares are. -/
theorem namesDistinct_account {names : List String} (distinct : names.Nodup) :
    Throughout [] NamesDistinct (account names) := by
  -- An account has a default with a single name, and a text has none.
  refine (throughout_account names).imp fun node among => ?_
  rcases among with rfl | rfl
  · refine ⟨?_, fun defaults given => ?_⟩
    · simpa [declaredNames, account, Members.names_eq_map, Function.comp_def] using distinct
    · cases given
      refine .fields (by simp [Members.names]) fun name default among => ?_
      obtain ⟨_, rfl⟩ := Prod.mk.inj (List.mem_singleton.1 among)
      exact .value (Value.wellFormed_string _)
  · exact ⟨List.nodup_nil, by simp [text, Schema.defaults, label]⟩

/-- An account does not look at the order of members. -/
theorem orderBlind_account (names : List String) :
    Throughout [] OrderBlind (account names) := by
  -- Its predicates ask for the tags of values, which do not depend on what these hold.
  have tags : ∀ tag value value' parent parent', Value.Reordered value value' →
      Option.Rel Value.Reordered parent parent' →
        (Registry.hasTag tag value parent).isPass = (Registry.hasTag tag value' parent').isPass := by
    intro tag value value' parent parent' reordered _
    cases reordered <;> rfl
  refine (throughout_account names).imp fun node among => ?_
  rcases among with rfl | rfl
  · refine ⟨fun predicate mine => List.mem_singleton.1 mine ▸ tags _, fun defaults given => ?_⟩
    cases given
    refine .fields fun name default among => ?_
    obtain ⟨_, rfl⟩ := Prod.mk.inj (List.mem_singleton.1 among)
    exact .value
  · exact ⟨fun predicate mine => List.mem_singleton.1 mine ▸ tags _,
      by simp [text, Schema.defaults, label]⟩

/-- An account is accepted in either order, and comes out the same up to order. -/
theorem validate_ignores_order_account : ∃ accepted accepted',
    validate [] 2 (account ["name", "role"]) (.object visitor) none = .ok (.ok accepted) ∧
      validate [] 2 (account ["role", "name"]) (.object visitor.reverse) none =
        .ok (.ok accepted') ∧
      accepted.Reordered accepted' := by
  -- The first run is carried out, and the second is compared with it.
  have linked : Links.Reordered [] [] := fun _ => .none
  have distinct : ["name", "role"].Nodup := by simp
  obtain ⟨accepts, _, reordered⟩ := validate_ignores_order 2 (account_reordered "name" "role")
    linked (namesDistinct_account distinct) (orderBlind_account _) wellFormed_visitor
    visitor_reordered .none
  have checked : validate [] 2 (account ["name", "role"]) (.object visitor) none =
      .ok (.ok (.object [("role", .string "guest"), ("nick", .string "A"),
        ("name", .string "Ada")])) := rfl
  obtain ⟨accepted', checked'⟩ := accepts.1 ⟨_, checked⟩
  exact ⟨_, accepted', checked, checked', reordered _ accepted' checked checked'⟩

end Conform.Schema
