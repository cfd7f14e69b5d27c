import Conform.Proofs.Schema.Depth
import Conform.Proofs.Schema.Fate
import Conform.Proofs.Schema.Graph
import Conform.Proofs.Schema.Kept
import Conform.Proofs.Schema.Opening
import Conform.Proofs.Value.Nesting

/-! Validation comes to an end on every value, however its references refer back, if values that come
back to a node have been opened in between. -/

namespace Conform.Schema

variable {links : Links} {check : Checker} {schema node field : Schema} {value accepted : Value}
  {parent : Option Value} {slot : Slot}

/-- Without a default, every place of a container is nested less deeply than the container. -/
theorem Opens.nesting_lt (opens : Opens schema value slot) (defaultFree : schema.defaults = none) :
    slot.value.nesting < value.nesting := by
  cases opens with
  | @name label _ _ members _ _ among =>
    have noDefaults : label.defaults = none := defaultFree
    rw [noDefaults] at among
    rcases undefined_or_mem_of_mem_shapeSlots among with absent | ⟨_, held⟩
    · rw [absent]
      exact Value.nesting_object_pos members
    · exact Value.nesting_lt_of_mem_object held
  | element among =>
    obtain ⟨place, item, held, rfl⟩ := mem_listSlots among
    exact Value.nesting_lt_of_mem_array (List.mem_of_getElem? held)
  | @item _ _ _ items _ among =>
    obtain ⟨place, _, rfl⟩ := mem_tupleSlots.1 among
    -- Past the end of the array stands what is undefined.
    cases found : items[place]? with
    | none => exact Value.nesting_array_pos items
    | some item => exact Value.nesting_lt_of_mem_array (List.mem_of_getElem? found)
  | @key _ _ _ _ _ _ members held => exact Value.nesting_object_pos members
  | entry held => exact Value.nesting_lt_of_mem_object held

/-- A checker accepts no value as one that is nested more deeply. -/
def KeepsNesting (check : Checker) (schema : Schema) : Prop :=
  ∀ value parent accepted, check schema value parent = .ok (.ok accepted) →
    accepted.nesting ≤ value.nesting

/-- What is accepted at a place of a container is nested less deeply than the container. -/
theorem Opens.nesting_accepted_lt (opens : Opens schema value slot)
    (defaultFree : schema.defaults = none)
    (below : ∀ next, Leads links schema next → KeepsNesting check next)
    (accepts : slot.Accepts check value accepted) : accepted.nesting < value.nesting := by
  -- The value at the place is nested less deeply, and a check does not nest it more.
  obtain ⟨field, declared, checked⟩ := accepts
  have kept := below field (opens.leads declared) slot.value _ accepted checked
  exact Nat.lt_of_le_of_lt kept (opens.nesting_lt defaultFree)

/-- A step accepts no value as one that is nested more deeply, if the steps that it leads to do not. -/
theorem Concludes.nesting_le (concluded : Concludes links check schema value parent (.ok accepted))
    (defaultFree : schema.defaults = none)
    (below : ∀ next, Leads links schema next → KeepsNesting check next) :
    accepted.nesting ≤ value.nesting := by
  -- Containers are rebuilt from what is accepted at their places, and from what they held.
  cases concluded with
  | admitted => exact Nat.le_refl _
  | @shape label mode guard fields members _ _ _ checked =>
    obtain ⟨results, visited, rfl⟩ := checkShape_eq_ok_iff.1 checked
    refine Value.nesting_object_le (Value.nesting_object_pos members) fun member held => ?_
    -- A member was there before, where names are free, or comes out of a check.
    rcases Members.mem_insertAll held with before | added
    · split at before
      · exact Value.nesting_lt_of_mem_object before
      · cases before
    · obtain ⟨slot, result, _⟩ := mem_checkedMembers.1 added
      obtain ⟨among, accepts⟩ := visited.accepts result
      have opens : Opens (.shape label mode guard fields) (.object members) slot := .name among
      exact opens.nesting_accepted_lt defaultFree below accepts
  | @list label guard element items _ _ _ checked =>
    obtain ⟨results, rfl, each⟩ := checkItems_eq_ok_iff.1 checked
    refine Value.nesting_array_le (Value.nesting_array_pos items) fun result given => ?_
    obtain ⟨slot, among, accepts⟩ := exists_related each.flip result given
    have opens : Opens (.list label guard element) (.array items) slot := .element among
    exact opens.nesting_accepted_lt defaultFree below accepts
  | @tuple label guard schemas items _ _ _ checked =>
    obtain ⟨results, rfl, each⟩ := checkItems_eq_ok_iff.1 checked
    refine Value.nesting_array_le (Value.nesting_array_pos items) fun result given => ?_
    obtain ⟨slot, among, accepts⟩ := exists_related each.flip result given
    have opens : Opens (.tuple label guard schemas) (.array items) slot := .item among
    exact opens.nesting_accepted_lt defaultFree below accepts
  | @dict label guard key item members _ _ _ checked =>
    obtain ⟨results, rfl, each⟩ := checkDict_eq_ok_iff.1 checked
    refine Value.nesting_object_le (Value.nesting_object_pos members) fun member held => ?_
    -- A dictionary is built anew, so each member comes out of the check of an entry.
    rcases Members.mem_insertAll held with before | given
    · cases before
    · obtain ⟨⟨name, old⟩, heldOld, _, _, _, checkedItem⟩ := exists_related each.flip member given
      have kept := below item .entry old _ member.2 checkedItem
      exact Nat.lt_of_le_of_lt kept (Value.nesting_lt_of_mem_object heldOld)
  | alternative _ checked => exact below _ (.alternative (by simp)) value parent accepted checked
  | parts checked =>
    -- Each part hands on a value that is nested no more deeply than the one it was given.
    exact (@passThrough_relates _ _ (fun old new => new.nesting ≤ old.nesting) (fun _ => True)
      (fun _ => Nat.le_refl _) (fun first second => Nat.le_trans second first) _
      (fun part among old new _ checkedPart =>
        ⟨below part (.part among) old parent new checkedPart, trivial⟩) _ trivial checked).1
  | target known checked => exact below _ (.target known) value parent accepted checked
  | selected checked => exact below _ (.selected value parent) value parent accepted checked

/-- Without defaults, validation accepts no value as one that is nested more deeply. -/
theorem keepsNesting_validate (depth : Nat)
    (defaultFree : Throughout links (fun node => node.defaults = none) schema) :
    KeepsNesting (validate links depth) schema := by
  -- The depth decreases with each step, whichever node it leads to.
  induction depth generalizing schema with
  | zero =>
    intro value parent accepted checked
    cases checked
  | succ depth ih =>
    intro value parent accepted checked
    have concluded := concludes_of_checkEffective checked
    rw [effective_of_defaultFree defaultFree.here] at concluded
    exact concluded.nesting_le defaultFree.here fun next leads => ih (defaultFree.below leads)

/-- What a node refers to is known. -/
def Resolved (links : Links) : Schema → Prop
  | lazy reference => ∃ target, links.get? reference = some target
  | _ => True

/-- Alternatives come to an end if each of them does. -/
theorem exists_firstAccepting (check : Schema → Run Outcome) {alternatives : List Schema}
    (each : ∀ alternative ∈ alternatives, ∃ outcome, check alternative = .ok outcome)
    (first : Option ValidationError) :
    ∃ outcome, firstAccepting check alternatives first = .ok outcome := by
  induction alternatives generalizing first with
  | nil => exact ⟨_, rfl⟩
  | cons alternative rest ih =>
    obtain ⟨found, checked⟩ := each alternative List.mem_cons_self
    have others := ih fun later among => each later (List.mem_cons_of_mem _ among)
    -- After a refusal the others are asked.
    cases found with
    | ok value => exact ⟨.ok value, by rw [firstAccepting, checked]; rfl⟩
    | error error =>
      obtain ⟨outcome, ran⟩ := others (first.or (some error))
      exact ⟨outcome, by rw [firstAccepting, checked]; exact ran⟩

/-- Parts in a row come to an end if each of them does, on every value that they may pass on. -/
theorem exists_passThrough (check : Schema → Value → Run Outcome) (sound : Value → Prop)
    {parts : List Schema}
    (each : ∀ part ∈ parts, ∀ value, sound value → ∃ outcome, check part value = .ok outcome)
    (keeps : ∀ part ∈ parts, ∀ value accepted, sound value →
      check part value = .ok (.ok accepted) → sound accepted)
    (holds : sound value) : ∃ outcome, passThrough check parts value = .ok outcome := by
  induction parts generalizing value with
  | nil => exact ⟨_, rfl⟩
  | cons part rest ih =>
    obtain ⟨found, checked⟩ := each part List.mem_cons_self value holds
    -- What has been accepted goes on to the other parts.
    cases found with
    | error error => exact ⟨.error error, by rw [passThrough, checked]; rfl⟩
    | ok passed =>
      have soundPassed := keeps part List.mem_cons_self value passed holds checked
      obtain ⟨outcome, ran⟩ := ih
        (fun later among => each later (List.mem_cons_of_mem _ among))
        (fun later among => keeps later (List.mem_cons_of_mem _ among)) soundPassed
      exact ⟨outcome, by rw [passThrough, checked]; exact ran⟩

/-- A step comes to an outcome if the checks of all places that it opens do, and those of all nodes
that it hands the value on to. -/
theorem exists_checkEffective (static : ¬ schema.IsDynamic) (resolved : schema.Resolved links)
    (kept : ∀ next name parent accepted, check next (.string name) parent = .ok (.ok accepted) →
      accepted = .string name)
    (inside : ∀ slot field, Opens schema value slot → slot.declared = some field →
      ∃ outcome, check field slot.value (some value) = .ok outcome)
    (onward : ∀ next, HandsOn links schema next → ∀ handed, handed.nesting ≤ value.nesting →
      ∃ outcome, check next handed parent = .ok outcome)
    (keeps : ∀ next, HandsOn links schema next → KeepsNesting check next) :
    ∃ outcome, checkEffective links check schema value parent = .ok outcome := by
  -- Leaves and guards answer at once, containers ask inside, and the others hand the value on.
  cases schema with
  | scalar | custom | enumeration | literal | instanceOf => exact ⟨_, rfl⟩
  | shape label mode guard fields =>
    simp only [checkEffective]
    split
    · exact ⟨_, rfl⟩
    · rw [← Fate.of_ne_stopped_iff, Fate.of_checkShape]
      exact Fate.of_visitAll_ne_stopped fun slot among field declared =>
        Fate.of_ne_stopped_iff.2 (inside slot field (.name among) declared)
    · exact ⟨_, rfl⟩
  | list label guard element =>
    simp only [checkEffective]
    split
    · exact ⟨_, rfl⟩
    · rw [← Fate.of_ne_stopped_iff, Fate.of_checkItems]
      exact Fate.of_visitAll_ne_stopped fun slot among field declared =>
        Fate.of_ne_stopped_iff.2 (inside slot field (.element among) declared)
    · exact ⟨_, rfl⟩
  | tuple label guard schemas =>
    simp only [checkEffective]
    split
    · exact ⟨_, rfl⟩
    · rw [← Fate.of_ne_stopped_iff, Fate.of_checkItems]
      exact Fate.of_visitAll_ne_stopped fun slot among field declared =>
        Fate.of_ne_stopped_iff.2 (inside slot field (.item among) declared)
    · exact ⟨_, rfl⟩
  | dict label guard key item =>
    simp only [checkEffective]
    split
    · exact ⟨_, rfl⟩
    · rw [← Fate.of_ne_stopped_iff]
      exact Fate.of_checkDict_ne_stopped (fun name accepted => kept key name _ accepted)
        (fun name value held => Fate.of_ne_stopped_iff.2 (inside _ key (.key held) rfl))
        (fun name value held => Fate.of_ne_stopped_iff.2 (inside _ item (.entry held) rfl))
    · exact ⟨_, rfl⟩
  | union label alternatives =>
    -- All alternatives are asked about the value as it is.
    obtain ⟨found, ran⟩ := exists_firstAccepting (check · value parent)
      (fun alternative among => onward alternative (.alternative among) value (Nat.le_refl _)) none
    cases found with
    | ok accepted => exact ⟨.ok accepted, by rw [checkEffective, ran]; rfl⟩
    | error first => exact ⟨_, by rw [checkEffective, ran]; rfl⟩
  | intersection label parts =>
    -- No part is handed a value that is nested more deeply than the first one.
    obtain ⟨found, ran⟩ := exists_passThrough (check · · parent)
      (fun handed => handed.nesting ≤ value.nesting)
      (fun part among handed shallow => onward part (.part among) handed shallow)
      (fun part among handed accepted shallow checked =>
        Nat.le_trans (keeps part (.part among) handed parent accepted checked) shallow)
      (Nat.le_refl _)
    cases found with
    | ok accepted => exact ⟨.ok accepted, by rw [checkEffective, ran]; rfl⟩
    | error error => exact ⟨_, by rw [checkEffective, ran]; rfl⟩
  -- Every reference leads to a schema that is asked about the value as it is.
  | lazy reference =>
    obtain ⟨target, known⟩ := resolved
    obtain ⟨outcome, checked⟩ := onward target (.target known) value (Nat.le_refl _)
    exact ⟨outcome, by simp only [checkEffective, known, checked]⟩
  | dynamic => exact absurd trivial static

/-- What validation needs of a node to come to an end: it selects nothing and has no default, what it
refers to is known, and no value comes back to it unopened. -/
structure Terminates (links : Links) (node : Schema) : Prop where
  static : ¬ node.IsDynamic
  -- A default could bring in containers that the value does not have.
  defaultFree : node.defaults = none
  resolved : node.Resolved links
  guarded : Guarded links node

/-- Validation comes to an end at every node that can be reached. Opening a value is worth as much
depth as there are nodes, and within a value the rank of the node counts. -/
theorem exists_outcome_of_le (nodes : Throughout links (Terminates links) schema) (depth : Nat)
    (reached : Reaches links schema node) (value : Value) (parent : Option Value)
    (enough : value.nesting * nodeCount links schema + rank links node ≤ depth) :
    ∃ outcome, validate links depth node value parent = .ok outcome := by
  have static : Throughout links (fun node => ¬ node.IsDynamic) schema :=
    nodes.imp fun _ node => node.static
  induction depth generalizing node value parent with
  | zero =>
    -- The bound is never zero, for a value comes at least to the node itself.
    have positive : 0 < rank links node := rank_pos fun other onward =>
      static other (reached.trans onward)
    omega
  | succ depth ih =>
    have terminates := nodes node reached
    have below : Throughout links (Terminates links) node := fun other onward =>
      nodes other (reached.trans onward)
    have positive : 0 < rank links node := rank_pos fun other onward =>
      static other (reached.trans onward)
    show ∃ outcome, checkEffective links (validate links depth) node (node.effective value parent)
      parent = .ok outcome
    rw [effective_of_defaultFree terminates.defaultFree]
    refine exists_checkEffective terminates.static terminates.resolved
      (fun _ _ _ _ taken => (kept_validate taken).of_string) ?_ ?_ ?_
    · -- What has been opened is nested less deeply, so the rank may be anything.
      intro slot field opens declared
      have onward : Reaches links schema field := reached.tail (opens.leads declared)
      have shallower := opens.nesting_lt terminates.defaultFree
      have cheaper : (slot.value.nesting + 1) * nodeCount links schema ≤
          value.nesting * nodeCount links schema := Nat.mul_le_mul_right _ shallower
      rw [Nat.add_mul, Nat.one_mul] at cheaper
      have ranked := rank_le_nodeCount static onward
      exact ih onward slot.value (some value) (by omega)
    · -- What is handed on comes to a node of lower rank.
      intro next hands handed shallow
      have lower := rank_lt_of_handsOn (fun other onward => static other (reached.trans onward))
        terminates.guarded hands
      have cheaper : handed.nesting * nodeCount links schema ≤
          value.nesting * nodeCount links schema := Nat.mul_le_mul_right _ shallow
      exact ih (reached.tail hands.leads) handed parent (by omega)
    · intro next hands
      exact keepsNesting_validate depth
        ((below.below hands.leads).imp fun _ node => node.defaultFree)

/-- If nothing is selected and nothing has a default, if what references stand for is known, and if
every way from a node back to itself leads through a place of a container, then validation comes to an
outcome that no longer depends on the depth, once that allows for all nodes at every level of the
value. -/
theorem validate_terminates
    (static : Throughout links (fun node => ¬ node.IsDynamic) schema)
    (defaultFree : Throughout links (fun node => node.defaults = none) schema)
    (resolved : Throughout links (Resolved links) schema)
    (guarded : Throughout links (Guarded links) schema) (value : Value) (parent : Option Value) :
    ∃ outcome, ∀ depth, (value.nesting + 1) * nodeCount links schema ≤ depth →
      validate links depth schema value parent = .ok outcome := by
  have nodes : Throughout links (Terminates links) schema := fun node reached =>
    ⟨static node reached, defaultFree node reached, resolved node reached, guarded node reached⟩
  have enough : value.nesting * nodeCount links schema + rank links schema ≤
      (value.nesting + 1) * nodeCount links schema := by
    rw [Nat.add_mul, Nat.one_mul]
    exact Nat.add_le_add_left (rank_le_nodeCount static .refl) _
  obtain ⟨outcome, checked⟩ := exists_outcome_of_le nodes _ .refl value parent enough
  -- Whatever comes to an outcome comes to the same one if it may go deeper.
  exact ⟨outcome, fun depth deep => validate_of_le deep _ _ _ _ checked⟩

/-- A truth value. -/
def truth : Schema :=
  .enumeration ⟨"truth", none⟩ [.bool true, .bool false]

/-- A list of what a reference stands for. -/
def trees : Schema :=
  .list ⟨"[tree]", none⟩ (Registry.hasTag .array) (.lazy 0)

/-- A truth value or a list of trees. -/
def tree : Schema :=
  .union ⟨"tree", none⟩ [truth, trees]

/-- The reference by which a tree branches. -/
def treeLinks : Links :=
  [(0, tree)]

/-- A tree consists of truth values, of lists and of the references in them. -/
theorem throughout_tree : Throughout treeLinks
    (fun node => node = tree ∨ node = truth ∨ node = trees ∨ node = .lazy 0) tree := by
  -- The list leads to the reference, which leads back to the tree.
  refine .of_closed _ (.inl rfl) (fun node next among leads => ?_) fun _ among => among
  rcases among with rfl | rfl | rfl | rfl
  · cases leads with
    | alternative among =>
      have oneOf : next = truth ∨ next = trees := by simpa using among
      rcases oneOf with rfl | rfl <;> simp
  · cases leads
  · cases leads
    simp
  · cases leads with
    | target known =>
      cases known
      exact .inl rfl

/-- Trees are guarded, for a list opens whatever comes back to the tree. -/
theorem guarded_tree : Throughout treeLinks (Guarded treeLinks) tree := by
  -- Neither truth values nor lists hand anything on.
  have ends : ∀ next other, next = truth ∨ next = trees →
      Relation.ReflTransGen (HandsOn treeLinks) next other → other = next := by
    intro next other oneOf handed
    rcases Relation.ReflTransGen.cases_head handed with same | ⟨_, hands, _⟩
    · exact same.symm
    · rcases oneOf with rfl | rfl <;> cases hands
  -- So the ways from a tree end after one step, and those from the reference after two.
  have endsTree : ∀ other, Relation.TransGen (HandsOn treeLinks) tree other →
      other = truth ∨ other = trees := by
    intro other handed
    obtain ⟨next, hands, onward⟩ := Relation.TransGen.head'_iff.1 handed
    cases hands with
    | alternative among =>
      have oneOf : next = truth ∨ next = trees := by simpa using among
      exact (ends next other oneOf onward) ▸ oneOf
  refine throughout_tree.imp fun node among around => ?_
  obtain ⟨next, hands, onward⟩ := Relation.TransGen.head'_iff.1 around
  rcases among with rfl | rfl | rfl | rfl
  · rcases endsTree tree around with same | same <;> cases same
  · cases hands
  · cases hands
  · cases hands with
    | target known =>
      cases known
      rcases Relation.ReflTransGen.cases_head onward with same | ⟨_, first, rest⟩
      · cases same
      · rcases endsTree _ (.head' first rest) with same | same <;> cases same

/-- Trees come to four nodes at most. -/
theorem nodeCount_tree : nodeCount treeLinks tree ≤ 4 := by
  -- The nodes are among four that can be listed.
  have listed : {node | Reaches treeLinks tree node} ⊆ {tree, truth, trees, .lazy 0} := by
    intro node reached
    simpa using throughout_tree node reached
  have counted := Set.ncard_le_ncard listed (Set.toFinite _)
  have first := Set.ncard_insert_le tree {truth, trees, .lazy 0}
  have second := Set.ncard_insert_le truth {trees, .lazy 0}
  have third := Set.ncard_insert_le trees {.lazy 0}
  have last := Set.ncard_singleton (Schema.lazy 0)
  unfold nodeCount
  omega

/-- A tree of two levels is validated within twelve steps. -/
theorem validate_terminates_tree :
    ∃ outcome, ∀ depth, 12 ≤ depth →
      validate treeLinks depth tree (.array [.bool true, .array []]) none = .ok outcome := by
  -- The four nodes select nothing, have no default and are known, and every cycle passes through the
  -- list.
  obtain ⟨outcome, checked⟩ := validate_terminates
    (throughout_tree.imp fun node among => by
      rcases among with rfl | rfl | rfl | rfl <;> exact id)
    (throughout_tree.imp fun node among => by rcases among with rfl | rfl | rfl | rfl <;> rfl)
    (throughout_tree.imp fun node among => by
      rcases among with rfl | rfl | rfl | rfl
      · trivial
      · trivial
      · trivial
      · exact ⟨tree, rfl⟩)
    guarded_tree (.array [.bool true, .array []]) none
  refine ⟨outcome, fun depth deep => checked depth ?_⟩
  -- Two levels and four nodes make twelve steps at most.
  have levels : (Value.array [.bool true, .array []]).nesting = 2 := rfl
  have nodes := nodeCount_tree
  rw [levels]
  omega

end Conform.Schema
