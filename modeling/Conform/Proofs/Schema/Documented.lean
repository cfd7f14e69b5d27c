import Conform.Proofs.Json.Finite
import Conform.Proofs.Schema.Compilation
import Conform.Proofs.Schema.Printing
import Conform.Proofs.Value.Printed

/-! What documents are compiled to: schemas that judge by blind types, and containers of bare ones. -/

namespace Conform

open Schema

namespace Scope

variable {scope : Scope}

/-- A builder makes judging schemas, and bare ones if it is given no default. -/
def BuildsJudging (build : Option Defaults → Built) : Prop :=
  ∀ bare defaults schema, (bare = true → defaults = none) → build defaults = .ok schema →
    schema.Judging bare

/-- Names of blind types make judging schemas. -/
theorem buildsJudging_scalar (blind : scope.registry.AllBlind) (name : String) :
    BuildsJudging (scope.scalar name) := by
  -- The predicate is that of the registered type.
  intro bare defaults schema own built
  obtain ⟨predicate, found, rfl⟩ := bind_pure_eq_ok_iff.1 built
  exact .scalar own (blind name predicate (get?_of_predicate found))

/-- What is made optional stays judging. -/
theorem judging_of_optional (blind : scope.registry.AllBlind) {bare : Bool} {schema result : Schema}
    (judging : schema.Judging bare) (built : scope.optional schema none = .ok result) :
    result.Judging bare := by
  obtain ⟨undefined, scalar, rfl⟩ := bind_pure_eq_ok_iff.1 built
  refine .union (fun _ => rfl) fun alternative among => ?_
  -- The second alternative is a name, without a default of its own.
  rcases List.mem_cons.1 among with rfl | second
  · exact judging
  · rw [List.mem_singleton.1 second]
    exact buildsJudging_scalar blind "undefined" bare none undefined (fun _ => rfl) scalar

end Scope

namespace Shorthand

open Scope

variable {scope : Scope}

/-- Question marks keep schemas judging. -/
theorem judging_of_optionals (blind : scope.registry.AllBlind) {bare : Bool} {count : Nat}
    {schema result : Schema} (judging : schema.Judging bare)
    (built : optionals scope count schema = .ok result) : result.Judging bare := by
  -- Each question mark is put around what is judging already.
  induction count generalizing result with
  | zero =>
    cases built
    exact judging
  | succ count ih =>
    obtain ⟨inner, fewer, outer⟩ := bind_eq_ok_iff.1 built
    exact judging_of_optional blind (ih fewer) outer

/-- Joined parts are judging if each part is and if judging parts are combined to a judging schema. -/
theorem buildsJudging_joined {α : Type} {combine : List Schema → Option Defaults → Schema}
    {build : α → Option Defaults → Built} {items : List α}
    (combines : ∀ bare schemas defaults, (bare = true → defaults = none) →
      (∀ schema ∈ schemas, Judging bare schema) → (combine schemas defaults).Judging bare)
    (each : ∀ item ∈ items, BuildsJudging (build item)) :
    BuildsJudging (joined combine build · items) := by
  intro bare defaults schema own built
  -- Parts that are combined are built without a default.
  have combined : (do return combine (← items.mapM (build · none)) defaults : Built) = .ok schema →
      schema.Judging bare := by
    intro built
    obtain ⟨schemas, ran, rfl⟩ := bind_pure_eq_ok_iff.1 built
    refine combines bare schemas defaults own fun part among => ?_
    obtain ⟨item, held, builtItem⟩ := exists_related (mapM_eq_ok_iff.1 ran).flip part among
    exact each item held bare none part (fun _ => rfl) builtItem
  match items with
  | [] => exact combined built
  | [only] => exact each only List.mem_cons_self bare defaults schema own built
  | first :: next :: more => exact combined built

/-- Conjuncts are judging. -/
theorem buildsJudging_conjunct (blind : scope.registry.AllBlind) (conjunct : Conjunct) :
    BuildsJudging (conjunct.build scope) := by
  -- A conjunct is a name with question marks behind it.
  intro bare defaults schema own built
  obtain ⟨inner, scalar, outer⟩ := bind_eq_ok_iff.1 built
  exact judging_of_optionals blind (buildsJudging_scalar blind _ bare defaults inner own scalar) outer

/-- Alternatives are judging. -/
theorem buildsJudging_alternative (blind : scope.registry.AllBlind) (alternative : Alternative) :
    BuildsJudging (alternative.build scope) := by
  -- An alternative joins its conjuncts and then puts question marks around them.
  intro bare defaults schema own built
  obtain ⟨inner, parts, outer⟩ := bind_eq_ok_iff.1 built
  have joins : BuildsJudging
      (joined scope.intersection (Conjunct.build scope) · alternative.conjuncts) :=
    buildsJudging_joined (fun bare schemas defaults own each => .intersection own each)
      fun conjunct _ => buildsJudging_conjunct blind conjunct
  exact judging_of_optionals blind (joins bare defaults inner own parts) outer

/-- Formulas are judging. -/
theorem buildsJudging_formula (blind : scope.registry.AllBlind) (formula : Formula) :
    BuildsJudging (formula.build scope) := by
  -- A formula joins its alternatives and then puts question marks around them.
  intro bare defaults schema own built
  obtain ⟨inner, parts, outer⟩ := bind_eq_ok_iff.1 built
  have joins : BuildsJudging
      (joined scope.union (Alternative.build scope) · formula.alternatives) :=
    buildsJudging_joined (fun bare schemas defaults own each => .union own each)
      fun alternative _ => buildsJudging_alternative blind alternative
  exact judging_of_optionals blind (joins bare defaults inner own parts) outer

end Shorthand

/-- The items of a document are described one by one. -/
theorem Description.itemsOfJson_eq_map (items : List Json) :
    itemsOfJson items = items.map ofJson := by
  -- The description follows the list of items.
  induction items with
  | nil => rfl
  | cons item rest ih => rw [itemsOfJson, ih, List.map_cons]

/-- The members of a document are described one by one, under their names. -/
theorem Description.fieldsOfJson_eq_map (members : Members Json) :
    fieldsOfJson members = members.map fun member => (member.1, ofJson member.2) := by
  -- The description follows the list of members.
  induction members with
  | nil => rfl
  | cons member rest ih =>
    obtain ⟨name, item⟩ := member
    rw [fieldsOfJson, ih, List.map_cons]

namespace Scope

variable {scope : Scope}

/-- What a document is compiled to by blind types and the built-in guards is a documented schema, if the
default is plain data. -/
theorem documented_of_compile {document : Json} {bare : Bool} {defaults : Option Defaults}
    {schema : Schema} (blind : scope.registry.AllBlind)
    (object : scope.registry.get? "object" = Registry.builtin.get? "object")
    (array : scope.registry.get? "array" = Registry.builtin.get? "array")
    (regular : document.Regular List.Nodup) (own : bare = true → defaults = none)
    (table : PlainTable defaults)
    (compiled : scope.compile defaults (.ofJson document) = .ok schema) :
    Documented bare schema := by
  -- What a document describes is a name, a list or a shape, and nothing else can be compiled.
  have noTable : PlainTable none := by
    intro given same
    cases same
  induction regular generalizing bare defaults schema with
  | null | bool | integer | float => cases compiled
  | string text =>
    rw [Description.ofJson, compile, Shorthand.shorthand_eq_formula] at compiled
    exact .judging (Shorthand.buildsJudging_formula blind _ bare defaults schema own compiled)
  | @array items each ih =>
    -- Items are compiled without a default, and so to bare schemas.
    have inner : ∀ item ∈ items, ∀ part, scope.compile none (.ofJson item) = .ok part →
        Documented true part := fun item among part =>
      ih item among (fun _ => rfl) noTable
    rw [Description.ofJson, Description.itemsOfJson_eq_map] at compiled
    cases items with
    | nil => cases compiled
    | cons first rest =>
      cases rest with
      | nil =>
        obtain ⟨element, single, built⟩ := bind_eq_ok_iff.1 compiled
        obtain ⟨guard, found, rfl⟩ := bind_pure_eq_ok_iff.1 built
        exact .list own (array ▸ get?_of_predicate found) (inner first (by simp) element single)
      | cons next more =>
        rw [List.map_cons, List.map_cons, compile_several, ← List.map_cons, ← List.map_cons]
          at compiled
        obtain ⟨parts, ran, built⟩ := bind_eq_ok_iff.1 compiled
        obtain ⟨guard, found, rfl⟩ := bind_pure_eq_ok_iff.1 built
        refine .tuple own (array ▸ get?_of_predicate found) fun part held => ?_
        obtain ⟨described, among, single⟩ := exists_related (mapM_eq_ok_iff.1 ran).flip part held
        obtain ⟨item, there, rfl⟩ := List.mem_map.1 among
        exact inner item there part single
  | @object members distinct each ih =>
    rw [Description.ofJson, Description.fieldsOfJson_eq_map, compile, compileFields_eq] at compiled
    obtain ⟨fields, ran, built⟩ := bind_eq_ok_iff.1 compiled
    obtain ⟨guard, found, rfl⟩ := bind_pure_eq_ok_iff.1 built
    -- Each field has the name of a member and what its description is compiled to.
    have related : List.Forall₂ (fun (described : String × Description) (field : String × Schema) =>
        field.1 = described.1 ∧ scope.compile none described.2 = .ok field.2)
        (members.map fun member => (member.1, .ofJson member.2)) fields := by
      refine (mapM_eq_ok_iff.1 ran).imp fun described field made => ?_
      obtain ⟨part, single, rfl⟩ := bind_pure_eq_ok_iff.1 made
      exact ⟨rfl, single⟩
    have names : Members.names fields = members.names :=
      (names_of_related related).trans (Members.names_map _ _)
    refine .shape own table (object ▸ get?_of_predicate found) (names ▸ distinct) ?_
    intro name field declared
    obtain ⟨described, among, same, single⟩ := exists_related related.flip _ declared
    obtain ⟨⟨_, item⟩, held, rfl⟩ := List.mem_map.1 among
    exact ih _ item held (fun _ => rfl) noTable single

end Scope

end Conform
