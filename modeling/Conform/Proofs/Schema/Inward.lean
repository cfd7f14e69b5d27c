import Conform.Proofs.Schema.Compilation
import Conform.Proofs.Schema.Documented
import Conform.Proofs.Schema.Rehoming
import Conform.Proofs.Schema.Stops
import Conform.Proofs.Schema.Termination

/-! A document is compiled to nodes that lead nowhere but to their children, and so the height of a
schema bounds how deep its validation goes. -/

namespace Conform

namespace Schema

/-- Whether a node leads to its children alone: it selects nothing, and it refers to nothing. -/
def LeadsInward : Schema → Prop
  | lazy _ | dynamic _ _ => False
  | _ => True

/-- Whether all nodes of a schema lead to their children alone. -/
abbrev Inward (schema : Schema) : Prop :=
  Throughout [] LeadsInward schema

variable {schema next : Schema} {label : Label} {guard : Predicate}

/-- What a node of its children alone leads to is one of them. -/
theorem LeadsInward.child (inward : LeadsInward schema) (leads : Leads [] schema next) :
    next ∈ schema.children := by
  -- The node selects nothing, and without links no reference has a target.
  have static : ¬ schema.IsDynamic := by
    cases schema with
    | dynamic => exact absurd inward id
    | _ => exact id
  rcases child_or_target_of_leads leads static with child | ⟨_, known⟩
  · exact child
  · cases known

/-- A schema leads inward throughout if its root does and all children do throughout. -/
theorem inward_of_children (root : LeadsInward schema)
    (children : ∀ child ∈ schema.children, Inward child) : Inward schema :=
  .of_below root fun next leads => children next (root.child leads)

/-- Where all nodes lead inward, a validation that may go as deep as the schema is high comes to an
end. -/
theorem exists_outcome_of_inward (inward : Inward schema) {depth : Nat}
    (high : schema.height ≤ depth) (value : Value) (parent : Option Value) :
    ∃ outcome, validate [] depth schema value parent = .ok outcome := by
  -- Each step leads to a child, which is less high, and there is depth enough for it by induction.
  induction depth generalizing schema value parent with
  | zero =>
    exfalso
    cases schema <;> simp [height] at high
  | succ depth ih =>
    cases ran : validate [] (depth + 1) schema value parent with
    | ok outcome => exact ⟨outcome, rfl⟩
    | error reason =>
      have kept : ∀ next name parent accepted,
          validate [] depth next (.string name) parent = .ok (.ok accepted) →
            accepted = .string name :=
        fun next name parent accepted checked => (kept_validate checked).of_string
      rcases exists_stop_of_checkEffective kept ran with ⟨reference, rfl, _⟩ | below
      · exact absurd inward.here id
      · obtain ⟨next, leads, value, parent, stopped⟩ := below
        have lower := height_lt_of_mem_children (inward.here.child leads)
        obtain ⟨outcome, ended⟩ := ih (inward.below leads) (by omega) value parent
        rw [ended] at stopped
        cases stopped

end Schema

namespace Scope

open Schema

variable {scope : Scope} {schema : Schema}

/-- What holds of names, and passes on to unions, intersections and optional schemas, holds of whatever a
shorthand is built to. -/
theorem shorthand_induction {motive : Schema → Prop}
    (scalar : ∀ label predicate, motive (.scalar label predicate))
    (union : ∀ label alternatives, (∀ schema ∈ alternatives, motive schema) →
      motive (.union label alternatives))
    (intersection : ∀ label parts, (∀ schema ∈ parts, motive schema) →
      motive (.intersection label parts))
    (text : List Char) (defaults : Option Defaults)
    (built : scope.shorthand text defaults = .ok schema) : motive schema := by
  have named : ∀ name defaults schema, scope.scalar name defaults = .ok schema → motive schema := by
    intro name defaults schema built
    obtain ⟨predicate, _, rfl⟩ := bind_pure_eq_ok_iff.1 built
    exact scalar _ _
  -- Parts that are combined have each been built from a fragment of the text.
  have parts : ∀ {fragments : List (List Char)} {schemas : List Schema},
      (fragments.attach.mapM fun part => scope.shorthand part.1 none) = .ok schemas →
      (∀ part : {part // part ∈ fragments}, ∀ schema, scope.shorthand part.1 none = .ok schema →
        motive schema) →
      ∀ schema ∈ schemas, motive schema := by
    intro fragments schemas ran each schema among
    obtain ⟨part, _, made⟩ := exists_related (mapM_eq_ok_iff.1 ran).flip schema among
    exact each part schema made
  -- The recursion takes off a question mark, or splits at bars, or at ampersands, or reads a name.
  fun_induction scope.shorthand text defaults generalizing schema with
  | case1 text defaults marked ih =>
    obtain ⟨inner, shorter, outer⟩ := bind_eq_ok_iff.1 built
    obtain ⟨undefined, found, rfl⟩ := bind_pure_eq_ok_iff.1 outer
    refine union _ _ fun alternative among => ?_
    simp only [List.mem_cons, List.not_mem_nil, or_false] at among
    rcases among with rfl | rfl
    · exact ih shorter
    · exact named _ _ _ found
  | case2 text defaults marked bar ih =>
    obtain ⟨schemas, ran, rfl⟩ := bind_pure_eq_ok_iff.1 built
    exact union _ _ (parts ran fun part schema made => ih part made)
  | case3 text defaults marked bar ampersand ih =>
    obtain ⟨schemas, ran, rfl⟩ := bind_pure_eq_ok_iff.1 built
    exact intersection _ _ (parts ran fun part schema made => ih part made)
  | case4 text defaults => exact named _ _ _ built

/-- What a shorthand is built to leads inward throughout. -/
theorem inward_of_shorthand {text : List Char} {defaults : Option Defaults}
    (built : scope.shorthand text defaults = .ok schema) : Inward schema :=
  -- A name has no children, and the other schemas lead to what has been built before.
  shorthand_induction (fun _ _ => inward_of_children trivial fun _ child => by cases child)
    (fun _ _ each => inward_of_children trivial each)
    (fun _ _ each => inward_of_children trivial each) text defaults built

/-- A description without finished parts is compiled to a schema that leads inward throughout. -/
theorem inward_of_compile {description : Description} {defaults : Option Defaults}
    (unfinished : ∀ part, Description.Within part description → part.finished? = none)
    (compiled : scope.compile defaults description = .ok schema) : Inward schema := by
  -- Containers lead to what their parts have been compiled to, and nothing that leads elsewhere is
  -- compiled from such a description.
  induction description using Description.holds_of_parts generalizing defaults schema with
  | shorthand text => exact inward_of_shorthand compiled
  | items parts ih =>
    have each : ∀ item ∈ parts, ∀ schema, scope.compile none item = .ok schema → Inward schema :=
      fun item among schema => ih item among fun part within => unfinished part (.item among within)
    rcases parts with _ | ⟨first, _ | ⟨next, more⟩⟩
    · cases compiled
    · obtain ⟨inner, made, built⟩ := bind_eq_ok_iff.1 compiled
      obtain ⟨guard, _, rfl⟩ := bind_pure_eq_ok_iff.1 built
      refine inward_of_children trivial fun child among => ?_
      rw [List.mem_singleton.1 among]
      exact each first List.mem_cons_self inner made
    · rw [compile_several] at compiled
      obtain ⟨inner, made, built⟩ := bind_eq_ok_iff.1 compiled
      obtain ⟨guard, _, rfl⟩ := bind_pure_eq_ok_iff.1 built
      refine inward_of_children trivial fun child among => ?_
      obtain ⟨item, held, made⟩ := exists_related (mapM_eq_ok_iff.1 made).flip child among
      exact each item held child made
  | shape fields ih =>
    rw [compile, compileFields_eq] at compiled
    obtain ⟨inner, made, built⟩ := bind_eq_ok_iff.1 compiled
    obtain ⟨guard, _, rfl⟩ := bind_pure_eq_ok_iff.1 built
    refine inward_of_children trivial fun child among => ?_
    obtain ⟨field, held, rfl⟩ := List.mem_map.1 among
    obtain ⟨⟨name, item⟩, declared, ran⟩ := exists_related (mapM_eq_ok_iff.1 made).flip field held
    obtain ⟨schema, single, rfl⟩ := bind_pure_eq_ok_iff.1 ran
    exact ih name item declared (fun part within => unfinished part (.field declared within)) single
  | predicate =>
    cases compiled
    exact inward_of_children trivial fun _ child => by cases child
  -- These are finished parts.
  | node | struct => cases unfinished _ .here
  | value => cases compiled

end Scope

/-- Nothing is finished in the description of a document. -/
theorem Description.unfinished_ofJson {part : Description} {document : Json}
    (within : Within part (ofJson document)) : part.finished? = none := by
  -- Every part of the description describes a part of the document.
  generalize described : ofJson document = description at within
  induction within generalizing document with
  | here =>
    subst described
    cases document <;> rfl
  | @item item items among inside ih =>
    cases document with
    | array parts =>
      cases described
      rw [itemsOfJson_eq_map] at among
      obtain ⟨part, _, same⟩ := List.mem_map.1 among
      exact ih same
    | _ => cases described
  | field declared inside ih =>
    cases document with
    | object members =>
      cases described
      rw [fieldsOfJson_eq_map] at declared
      obtain ⟨member, _, same⟩ := List.mem_map.1 declared
      cases same
      exact ih rfl
    | _ => cases described

end Conform
