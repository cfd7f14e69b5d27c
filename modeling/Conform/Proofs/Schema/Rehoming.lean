import Conform.Proofs.Members
import Conform.Proofs.Schema.Compilation
import Conform.Schema.Factory

/-! A struct that is compiled again starts from the description it came from, so that nothing is left of
the factories on the way. -/

namespace Conform

namespace Description

/-- Whether a description is a finished struct. -/
def IsStruct : Description → Prop
  | struct _ _ => True
  | _ => False

/-- The part of a description that a step leads to. -/
def step? : Description → Segment → Option Description
  | items parts, .index place => parts[place]?
  | shape fields, .key name => Members.get? fields name
  | _, _ => none

/-- The part of a description at the end of a path. -/
def part? (description : Description) : Path → Option Description
  | [] => some description
  | step :: rest => description.step? step >>= fun part => part.part? rest

/-- The node that a description holds ready, if it is one that holds a node. -/
def finished? : Description → Option Schema
  | node schema => some schema
  | struct _ schema => some schema
  | _ => none

end Description

namespace Schema

/-- The node that a step leads to inside a list, a tuple or a shape. -/
def step? : Schema → Segment → Option Schema
  -- A list is described by its one element, which stands at the first place.
  | list _ _ element, .index place => if place = 0 then some element else none
  | tuple _ _ items, .index place => items[place]?
  | shape _ _ _ fields, .key name => Members.get? fields name
  | _, _ => none

/-- The node at the end of a path. -/
def part? (schema : Schema) : Path → Option Schema
  | [] => some schema
  | step :: rest => schema.step? step >>= fun part => part.part? rest

end Schema

/-- Members related name by name have related values under each name. -/
theorem Members.exists_get?_of_forall₂ {α β : Type} (relation : α → β → Prop) {members : Members α}
    {results : Members β}
    (related : List.Forall₂ (fun member result => member.1 = result.1 ∧ relation member.2 result.2)
      members results) {name : String} {value : α} (held : members.get? name = some value) :
    ∃ result, results.get? name = some result ∧ relation value result := by
  -- The names agree place by place, so both are found at the same place.
  induction related with
  | nil => cases held
  | @cons member result _ _ head _ ih =>
    obtain ⟨named, value⟩ := member
    obtain ⟨_, given⟩ := result
    obtain ⟨rfl, holds⟩ := head
    by_cases here : name = named
    · rw [get?, if_pos here] at held
      obtain rfl := Option.some.inj held
      exact ⟨given, if_pos here, holds⟩
    · rw [get?, if_neg here] at held
      obtain ⟨found, stands, relates⟩ := ih held
      exact ⟨found, (if_neg here).trans stands, relates⟩

namespace Scope

variable {scope : Scope} {defaults : Option Defaults} {description part : Description}
  {schema node : Schema}

/-- What a step leads to in a description is compiled, without a default, to what the step leads to in
the schema. -/
theorem exists_step_of_compile {step : Segment}
    (compiled : scope.compile defaults description = .ok schema)
    (stands : description.step? step = some part) :
    ∃ inner, schema.step? step = some inner ∧ scope.compile none part = .ok inner := by
  match description, step, stands with
  | .items [element], .index place, stands =>
    -- A single element stands at the first place, and nothing at the others.
    rw [Scope.compile] at compiled
    obtain ⟨inner, made, wrapped⟩ := bind_eq_ok_iff.1 compiled
    obtain ⟨guard, -, rfl⟩ := bind_pure_eq_ok_iff.1 wrapped
    cases place with
    | zero =>
      obtain rfl := Option.some.inj stands
      exact ⟨inner, rfl, made⟩
    | succ place => cases stands
  | .items (first :: next :: more), .index place, stands =>
    rw [compile_several] at compiled
    obtain ⟨inner, made, wrapped⟩ := bind_eq_ok_iff.1 compiled
    obtain ⟨guard, -, rfl⟩ := bind_pure_eq_ok_iff.1 wrapped
    exact exists_getElem?_of_forall₂ (mapM_eq_ok_iff.1 made) stands
  | .shape fields, .key name, stands =>
    rw [Scope.compile, compileFields_eq] at compiled
    obtain ⟨inner, made, wrapped⟩ := bind_eq_ok_iff.1 compiled
    obtain ⟨guard, -, rfl⟩ := bind_pure_eq_ok_iff.1 wrapped
    -- Each field keeps its name.
    have related : List.Forall₂ (fun field result => field.1 = result.1 ∧
        scope.compile none field.2 = .ok result.2) fields inner := by
      refine (mapM_eq_ok_iff.1 made).imp fun field result ran => ?_
      obtain ⟨schema, found, rfl⟩ := bind_pure_eq_ok_iff.1 ran
      exact ⟨rfl, found⟩
    exact Members.exists_get?_of_forall₂ (fun part inner => scope.compile none part = .ok inner)
      related stands

/-- What stands at the end of a path in a description is compiled to what stands there in the schema. -/
theorem exists_part_of_compile {path : Path}
    (compiled : scope.compile defaults description = .ok schema)
    (stands : description.part? path = some part) :
    ∃ inner given, schema.part? path = some inner ∧ scope.compile given part = .ok inner := by
  -- Each step of the path leads to a part of both.
  induction path generalizing description defaults schema with
  | nil =>
    obtain rfl := Option.some.inj stands
    exact ⟨schema, defaults, rfl, compiled⟩
  | cons step rest ih =>
    obtain ⟨next, stepped, remaining⟩ := Option.bind_eq_some_iff.1 stands
    obtain ⟨inner, reached, made⟩ := exists_step_of_compile compiled stepped
    obtain ⟨last, given, found, builds⟩ := ih made remaining
    exact ⟨last, given, Option.bind_eq_some_iff.2 ⟨inner, reached, found⟩, builds⟩

/-- What is finished is compiled to itself, whatever is registered and whatever default is given. -/
theorem compile_finished (scope : Scope) (defaults : Option Defaults)
    (finished : description.finished? = some node) :
    scope.compile defaults description = .ok node := by
  -- There are two finished descriptions: a node, and a struct, which stands for its node.
  match description, finished with
  | .node schema, finished => exact congrArg Except.ok (Option.some.inj finished)
  | .struct source schema, finished => exact congrArg Except.ok (Option.some.inj finished)

/-- A finished part stays what it is, at its place in the schema. -/
theorem part?_of_finished {path : Path}
    (compiled : scope.compile defaults description = .ok schema)
    (stands : description.part? path = some part) (finished : part.finished? = some node) :
    schema.part? path = some node := by
  -- What stands there in the schema has been compiled from the finished part.
  obtain ⟨inner, given, found, made⟩ := exists_part_of_compile compiled stands
  rw [found, Except.ok.inj (made.symm.trans (compile_finished scope given finished))]

end Scope

namespace Factory

variable {factory : Factory} {links : Links} {description : Description} {defaults : Option Defaults}
  {struct later : Struct} {chain : List (Links × Factory)}

/-- A description that is not a struct is its own source. -/
theorem compileWith_of_plain (factory : Factory) (links : Links) (defaults : Option Defaults)
    (plain : ¬ description.IsStruct) :
    factory.compileWith links description defaults = (do
      return ⟨description, defaults, factory.registry,
        ← (factory.scope links).compile defaults description⟩) := by
  -- Only the description of a struct is replaced by its source.
  cases description with
  | struct => exact absurd trivial plain
  | _ => rfl

/-- Compiling a description that is not a struct keeps it as the source. -/
theorem source_eq_of_compileWith (plain : ¬ description.IsStruct)
    (compiled : factory.compileWith links description defaults = .ok struct) :
    struct.source = description := by
  -- The source is the description, as it is given.
  rw [compileWith_of_plain factory links defaults plain] at compiled
  obtain ⟨schema, -, rfl⟩ := bind_pure_eq_ok_iff.1 compiled
  rfl

/-- A struct is compiled again like the description that it came from. -/
theorem compileWith_toDescription (factory : Factory) (links : Links) (defaults : Option Defaults)
    (plain : ¬ struct.source.IsStruct) :
    factory.compileWith links struct.toDescription defaults =
      factory.compileWith links struct.source defaults := by
  -- The struct is described by its source, which is then compiled.
  rw [compileWith_of_plain factory links defaults plain]
  rfl

/-- The structs that come of a description by compiling it once, and what came of it again, each time in
the next factory of a chain. -/
inductive Rehomed (description : Description) : List (Links × Factory) → Struct → Prop where
  | first {links : Links} {factory : Factory} {struct : Struct}
      (compiled : factory.compile links description = .ok struct) :
      Rehomed description [(links, factory)] struct
  -- What is handed on is the struct, which brings along its description and its schema.
  | next {chain : List (Links × Factory)} {struct later : Struct} {links : Links}
      {factory : Factory} (rehomed : Rehomed description chain struct)
      (compiled : factory.compile links struct.toDescription = .ok later) :
      Rehomed description (chain ++ [(links, factory)]) later

/-- The structs that the methods of factories make. A struct that is compiled again has been made by
one of them before. -/
inductive Produced : Struct → Prop where
  | compiled {factory : Factory} {links : Links} {description : Description}
      {defaults : Option Defaults} {struct : Struct} (plain : ¬ description.IsStruct)
      (compiled : factory.compileWith links description defaults = .ok struct) : Produced struct
  -- A struct to compile again comes from a factory too.
  | compiledAgain {factory : Factory} {links : Links} {made struct : Struct}
      {defaults : Option Defaults} (produced : Produced made)
      (compiled : factory.compileWith links made.toDescription defaults = .ok struct) :
      Produced struct
  | made {factory : Factory} {links : Links} {recipe : Recipe} {struct : Struct}
      (made : factory.make links recipe = .ok struct) :
      Produced struct
  | lazy (factory : Factory) (reference : Nat) : Produced (factory.lazy reference)

/-- No struct has a struct as its source. -/
theorem Produced.not_isStruct (produced : Produced struct) : ¬ struct.source.IsStruct := by
  -- A factory takes the source of a struct, and otherwise what it is given.
  induction produced with
  | compiled plain compiled =>
    rw [source_eq_of_compileWith plain compiled]
    exact plain
  | compiledAgain _ compiled ih =>
    rw [compileWith_toDescription _ _ _ ih] at compiled
    rw [source_eq_of_compileWith ih compiled]
    exact ih
  | made made =>
    obtain ⟨schema, -, rfl⟩ := bind_pure_eq_ok_iff.1 made
    exact id
  | lazy => exact id

/-- However many factories a description has gone through, what is compiled last is what the last
factory makes of the description itself. -/
theorem Rehomed.compile_last (rehomed : Rehomed description chain struct)
    (plain : ¬ description.IsStruct) :
    struct.source = description ∧
      ∃ before links factory, chain = before ++ [(links, factory)] ∧
        factory.compile links description = .ok struct := by
  -- Each factory starts from the source, which is the description as long as it is handed on.
  induction rehomed with
  | first compiled =>
    exact ⟨source_eq_of_compileWith plain compiled, [], _, _, rfl, compiled⟩
  | next _ compiled ih =>
    obtain ⟨source, -⟩ := ih
    rw [compile, compileWith_toDescription _ _ _ (source ▸ plain), source] at compiled
    exact ⟨source_eq_of_compileWith plain compiled, _, _, _, rfl, compiled⟩

/-- What comes of a description, if it is not a struct, in any chain of factories has the description as
its source, and it is what the last factory makes of the description itself, with nothing left of the
others: neither their registered types nor their defaults. Any further factory makes the same of it as of
the description, and refuses the one exactly as the other. The parts that were finished before keep their
nodes at their places. And no struct that a factory makes has a struct as its source. -/
theorem rehomed_like_compiled (plain : ¬ description.IsStruct)
    (rehomed : Rehomed description chain struct) :
    struct.source = description ∧
      (∃ before links factory, chain = before ++ [(links, factory)] ∧
        factory.compile links description = .ok struct ∧
        struct.registry = factory.registry ∧ struct.defaults = factory.defaults) ∧
      (∀ links (factory : Factory),
        factory.compile links struct.toDescription = factory.compile links description) ∧
      (∀ path part node, description.part? path = some part → part.finished? = some node →
        struct.schema.part? path = some node) ∧
      ∀ made, Produced made → ¬ made.source.IsStruct := by
  -- The last factory has compiled the description, so its registry and default are the ones that are
  -- left.
  obtain ⟨source, before, links, factory, chained, compiled⟩ := rehomed.compile_last plain
  have made := compiled
  rw [compile, compileWith_of_plain factory links _ plain] at made
  obtain ⟨schema, built, rfl⟩ := bind_pure_eq_ok_iff.1 made
  refine ⟨rfl, ⟨before, links, factory, chained, compiled, rfl, rfl⟩, ?_, ?_,
    fun made produced => produced.not_isStruct⟩
  · intro links factory
    rw [compile, compile, compileWith_toDescription factory links _ plain]
  · intro path part node stands finished
    exact Scope.part?_of_finished built stands finished

/-- A factory that knows a type of codes besides the built-in ones. -/
def ofCodes (accepts : Value → Bool) : Factory :=
  ofTypes (Registry.empty.register "code" fun value _ => .ofBool (accepts value))

/-- The node of codes. -/
def codeNode (accepts : Value → Bool) (defaults : Option Defaults) : Schema :=
  .scalar ⟨"code", defaults⟩ fun value _ => .ofBool (accepts value)

/-- The name of codes is compiled to the node of codes. -/
theorem shorthand_code (accepts : Value → Bool) (defaults : Option Defaults) :
    ((ofCodes accepts).scope []).shorthand "code".toList defaults =
      .ok (codeNode accepts defaults) := by
  -- The name holds neither a question mark nor a separator.
  rw [Shorthand.shorthand_of_name (by decide) (by decide) (by decide)]
  rfl

/-- A code by name, and another that is known already. -/
def codePair (known : Schema) : Description :=
  .items [.shorthand "code", .struct (.shorthand "code") known]

/-- The code by name is looked up, and the other stays what it is. -/
theorem compile_codePair (accepts known : Value → Bool) (defaults : Option Defaults) :
    { ofCodes accepts with defaults }.compile [] (codePair (codeNode known none)) =
      .ok ⟨codePair (codeNode known none), defaults, (ofCodes accepts).registry,
        .tuple ⟨"[code,code]", defaults⟩ (Registry.hasTag .array)
          [codeNode accepts none, codeNode known none]⟩ := by
  -- The first code is looked up by name, and the second is finished.
  have built : ((ofCodes accepts).scope []).compile none (.shorthand "code") =
      .ok (codeNode accepts none) :=
    shorthand_code accepts none
  rw [compile, compileWith_of_plain _ _ _ id]
  show (do return (⟨_, defaults, _, ← ((ofCodes accepts).scope []).compile defaults _⟩ : Struct)) = _
  rw [codePair, Scope.compile_several, List.mapM_cons, built]
  rfl

/-- The first factory accepts every code and the second only what is undefined. A code by name is judged
by the second, a code that was known before still by the first, and the default that the first factory
gave the pair is gone. -/
theorem rehomed_like_compiled_codes : ∃ loose tight : Struct,
    { ofCodes fun _ => true with defaults := some (.value (.array [.null, .null])) }.compile []
        -- The pair is compiled by the first factory and then by the second, and both structs are run.
        (codePair (codeNode (fun _ => true) none)) = .ok loose ∧
      (ofCodes Value.isUndefined).compile [] loose.toDescription = .ok tight ∧
      (ofCodes Value.isUndefined).compile [] (codePair (codeNode (fun _ => true) none)) =
        .ok tight ∧
      tight.schema.part? [.index 1] = some (codeNode (fun _ => true) none) ∧
      (∃ accepted, loose.validate [] .undefined = .ok (.ok accepted)) ∧
      (∃ error, tight.validate [] .undefined = .ok (.error error)) ∧
      (∃ error, tight.validate [] (.array [.null, .null]) = .ok (.error error)) ∧
      ∃ accepted, tight.validate [] (.array [.undefined, .null]) = .ok (.ok accepted) := by
  have loose := compile_codePair (fun _ => true) (fun _ => true)
    (some (.value (.array [.null, .null])))
  have tight := compile_codePair Value.isUndefined (fun _ => true) none
  obtain ⟨_, _, again, _⟩ := rehomed_like_compiled id (.first loose)
  have compiled := (again [] (ofCodes Value.isUndefined)).trans tight
  obtain ⟨_, _, _, kept, _⟩ := rehomed_like_compiled id ((Rehomed.first loose).next compiled)
  exact ⟨_, _, loose, compiled, tight, kept [.index 1] _ _ rfl rfl, ⟨_, rfl⟩, ⟨_, rfl⟩, ⟨_, rfl⟩,
    ⟨_, rfl⟩⟩

end Factory

end Conform
