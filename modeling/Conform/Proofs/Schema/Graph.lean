import Mathlib.Data.Set.Card
import Mathlib.Data.Set.Finite.Lattice
import Conform.Proofs.Schema.Parent
import Conform.Proofs.Schema.Reach

/-! The nodes that a schema comes to form a finite graph. Those that hand values on without opening
them are ranked, unless a value could come back to the same node unopened. -/

namespace Conform

/-- A known reference stands for one of the linked schemas. -/
theorem Links.mem_of_get? {links : Links} {reference : Nat} {target : Schema}
    (known : links.get? reference = some target) : (reference, target) ∈ links := by
  -- Reading stops at the first link of the reference, and otherwise looks further.
  induction links with
  | nil => cases known
  | cons link rest ih =>
    obtain ⟨first, linked⟩ := link
    rw [get?] at known
    split at known
    · rename_i same
      cases known
      rw [same]
      exact List.mem_cons_self
    · exact List.mem_cons_of_mem _ (ih known)

namespace Schema

/-- The schemas that a node is made of. -/
def children : Schema → List Schema
  | shape _ _ _ fields => fields.map Prod.snd
  | list _ _ element => [element]
  | tuple _ _ items => items
  | dict _ _ key item => [key, item]
  | union _ alternatives => alternatives
  | intersection _ parts => parts
  | _ => []

/-- A schema contains itself and everything that its children contain. -/
abbrev Contains : Schema → Schema → Prop :=
  Relation.ReflTransGen fun node child => child ∈ node.children

/-- The number of different nodes that a schema comes to. -/
noncomputable def nodeCount (links : Links) (schema : Schema) : Nat :=
  {node | Reaches links schema node}.ncard

/-- A node hands a value on to another one without opening it. -/
inductive HandsOn (links : Links) : Schema → Schema → Prop where
  | alternative {label schema} {alternatives : List Schema} (among : schema ∈ alternatives) :
      HandsOn links (union label alternatives) schema
  | part {label schema} {parts : List Schema} (among : schema ∈ parts) :
      HandsOn links (intersection label parts) schema
  -- What is selected is no part of the tree, so it is not listed here.
  | target {reference target} (known : links.get? reference = some target) :
      HandsOn links (lazy reference) target

/-- A value that is handed on unopened never comes back to the same node. -/
def Guarded (links : Links) (node : Schema) : Prop :=
  ¬ Relation.TransGen (HandsOn links) node node

/-- How many nodes a value may come to before it is opened. -/
noncomputable def rank (links : Links) (node : Schema) : Nat :=
  {next | Relation.ReflTransGen (HandsOn links) node next}.ncard

variable {links : Links} {schema node next : Schema}

/-- A child is less high than the node that is made of it. -/
theorem height_lt_of_mem_children (child : next ∈ node.children) : next.height < node.height := by
  -- The height of a node is one more than the greatest of its children.
  cases node with
  | shape label mode guard fields =>
    obtain ⟨field, declared, rfl⟩ := List.mem_map.1 child
    rw [height]
    exact Nat.lt_succ_of_le (height_le_heightOfFields field declared)
  | list | dict =>
    simp only [children, List.mem_cons, List.not_mem_nil, or_false] at child
    rw [height]
    grind
  | tuple | union | intersection =>
    rw [height]
    exact Nat.lt_succ_of_le (height_le_heightOfAll next child)
  | scalar | custom | enumeration | literal | instanceOf | lazy | dynamic => cases child

/-- A schema contains finitely many others. -/
theorem finite_contained (schema : Schema) : {node | Contains schema node}.Finite := by
  -- Children are less high, so they contain finitely many by induction.
  induction higher : schema.height using Nat.strong_induction_on generalizing schema with
  | _ height ih =>
    subst higher
    have below : (⋃ child ∈ {child | child ∈ schema.children},
        {node | Contains child node}).Finite :=
      Set.Finite.biUnion (List.finite_toSet schema.children) fun child among =>
        ih _ (height_lt_of_mem_children among) child rfl
    -- A contained node is the schema itself, or a child contains it.
    refine (below.insert schema).subset fun node contained => ?_
    rcases Relation.ReflTransGen.cases_head contained with rfl | ⟨child, among, onward⟩
    · exact Set.mem_insert _ _
    · exact Set.mem_insert_of_mem _ (Set.mem_biUnion among onward)

/-- What a node leads to is a child of it or the target of a reference, unless it is selected. -/
theorem child_or_target_of_leads (leads : Leads links node next) (static : ¬ node.IsDynamic) :
    next ∈ node.children ∨ ∃ reference, links.get? reference = some next := by
  -- Every other way on leads to a schema that stands in the node itself.
  cases leads with
  | @field _ _ _ name _ _ declared =>
    exact .inl (List.mem_map_of_mem (f := Prod.snd) declared)
  | element | key | entry => exact .inl (by simp [children])
  | item among | alternative among | part among => exact .inl among
  | target known => exact .inr ⟨_, known⟩
  | selected => exact absurd trivial static

/-- Where nothing is selected, a schema comes to finitely many nodes. -/
theorem finite_reached (static : Throughout links (fun node => ¬ node.IsDynamic) schema) :
    {node | Reaches links schema node}.Finite := by
  -- Each of them is contained in the schema itself or in what a reference stands for.
  have linked : (⋃ link ∈ {link | link ∈ links}, {node | Contains link.2 node}).Finite :=
    Set.Finite.biUnion (List.finite_toSet links) fun link _ => finite_contained link.2
  refine ((finite_contained schema).union linked).subset fun node reached => ?_
  induction reached with
  | refl => exact .inl .refl
  | @tail node next before leads ih =>
    rcases child_or_target_of_leads leads (static node before) with child | ⟨reference, known⟩
    · -- A child stays inside whatever its parent is contained in.
      rcases ih with contained | contained
      · exact .inl (contained.tail child)
      · obtain ⟨link, among, contained⟩ := Set.mem_iUnion₂.1 contained
        exact .inr (Set.mem_biUnion among (contained.tail child))
    · exact .inr (Set.mem_biUnion (Links.mem_of_get? known) .refl)

/-- A node leads to whatever it hands values on to. -/
theorem HandsOn.leads (hands : HandsOn links node next) : Leads links node next := by
  -- The value is handed on by unions, intersections and references.
  cases hands with
  | alternative among => exact .alternative among
  | part among => exact .part among
  | target known => exact .target known

/-- Values that are handed on come to nodes that can be reached. -/
theorem reaches_of_handsOn (handed : Relation.ReflTransGen (HandsOn links) node next) :
    Reaches links node next :=
  Relation.ReflTransGen.mono (fun _ _ => HandsOn.leads) _ _ handed

/-- The rank of a node that can be reached is at most the number of nodes. -/
theorem rank_le_nodeCount (static : Throughout links (fun node => ¬ node.IsDynamic) schema)
    (reached : Reaches links schema node) : rank links node ≤ nodeCount links schema :=
  -- Whatever the value is handed on to is among the nodes that can be reached.
  Set.ncard_le_ncard (fun _ handed => reached.trans (reaches_of_handsOn handed))
    (finite_reached static)

/-- A value comes at least to the node itself. -/
theorem rank_pos (static : Throughout links (fun node => ¬ node.IsDynamic) node) :
    0 < rank links node :=
  (Set.ncard_pos ((finite_reached static).subset fun _ => reaches_of_handsOn)).2 ⟨node, .refl⟩

/-- A guarded node hands values on to nodes of lower rank. -/
theorem rank_lt_of_handsOn (static : Throughout links (fun node => ¬ node.IsDynamic) node)
    (guarded : Guarded links node) (hands : HandsOn links node next) :
    rank links next < rank links node := by
  have finite : {next | Relation.ReflTransGen (HandsOn links) node next}.Finite :=
    (finite_reached static).subset fun _ => reaches_of_handsOn
  refine Set.ncard_lt_ncard ⟨fun _ handed => .head hands handed, fun back => guarded ?_⟩ finite
  -- If the next node came to the first one again, there would be a way around without opening.
  have again : Relation.ReflTransGen (HandsOn links) next node := back .refl
  exact .head' hands again

end Schema

end Conform
