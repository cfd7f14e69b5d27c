import Conform.Check.Load
import Conform.Proofs.Files.Documents
import Conform.Proofs.Json.Equality
import Conform.Proofs.Schema.Documented

/-! What a check prints is accepted again as it is. -/

namespace Conform

/-- A document describes no finished struct, so it is compiled itself. -/
theorem Factory.compile_ofJson (factory : Factory) (links : Links) (document : Json) :
    factory.compile links (.ofJson document) = (do
      return ⟨.ofJson document, factory.defaults, factory.registry,
        ← (factory.scope links).compile factory.defaults (.ofJson document)⟩) := by
  cases document <;> rfl

namespace Files

variable {files : Files} {languages : Languages}

/-- A configuration keeps out of a name if no declared type has it. -/
def KeepsOut (files : Files) (languages : Languages) (place : Option String) (name : String) : Prop :=
  ∀ path config, place = some path → Config.load files languages path = .ok config →
    name ∉ config.types.names

/-- A factory has blind types only, and the built-in ones under the names that its configuration keeps
out of. -/
theorem registry_of_loadFactory {place : Option String} {factory : Factory}
    (loaded : files.loadFactory languages place = .ok factory) :
    factory.registry.AllBlind ∧ ∀ name, files.KeepsOut languages place name →
      factory.registry.get? name = Registry.builtin.get? name := by
  -- The declared types are blind, and are registered under their own names only.
  have extended : ∀ types : Registry, types.AllBlind →
      (∀ name, files.KeepsOut languages place name → types.get? name = none) →
      (Factory.ofTypes types).registry.AllBlind ∧ ∀ name, files.KeepsOut languages place name →
        (Factory.ofTypes types).registry.get? name = Registry.builtin.get? name := by
    intro types blind absent
    refine ⟨Registry.allBlind_builtin.extend blind, fun name out => ?_⟩
    rw [Factory.ofTypes, Registry.get?_extend, absent name out, Option.none_or]
  cases place with
  | none =>
    cases loaded
    exact extended .empty (fun name predicate found => by cases found) fun name out => rfl
  | some path =>
    obtain ⟨config, read, continued⟩ := bind_eq_ok_iff.1 loaded
    obtain ⟨types, built, made⟩ := bind_eq_ok_iff.1 continued
    cases made
    rw [mapError_eq_ok_iff] at read built
    exact extended types (Config.allBlind_registry Registry.allBlind_builtin built)
      fun name out => Config.get?_registry_of_not_mem built (out path config rfl read)

/-- A value that has been read from a file is plain data. -/
theorem plain_of_loadValue (lawful : languages.Lawful) {path : String} {value : Value}
    (loaded : files.loadValue languages path = .ok value) : value.Plain := by
  -- Such a value is made from a regular document.
  obtain ⟨document, read, rfl⟩ := bind_pure_eq_ok_iff.1 loaded
  exact (lawful.regular_of_readDocument (mapError_eq_ok_iff.1 read)).plain

/-- A schema that has been read from a file is a documented one. -/
theorem documented_of_loadStruct (lawful : languages.Lawful) {source : SchemaSource}
    {defaults : Option String} {struct : Struct}
    (object : files.KeepsOut languages source.config "object")
    (array : files.KeepsOut languages source.config "array")
    (loaded : files.loadStruct languages source defaults = .ok struct) :
    Schema.Documented false struct.schema := by
  -- Every file that the struct is made from has been read, and the schema has been compiled.
  obtain ⟨factory, made, loaded⟩ := bind_eq_ok_iff.1 loaded
  obtain ⟨attached, read, loaded⟩ := bind_eq_ok_iff.1 loaded
  obtain ⟨document, readSchema, loaded⟩ := bind_eq_ok_iff.1 loaded
  rw [mapError_eq_ok_iff] at readSchema loaded
  rw [Factory.compile_ofJson] at loaded
  obtain ⟨schema, compiled, rfl⟩ := bind_pure_eq_ok_iff.1 loaded
  -- The declared types do not look around, and the two guards are those built in.
  obtain ⟨blind, builtin⟩ := registry_of_loadFactory made
  -- The default, if there is one, is the value of a document.
  have table : Schema.PlainTable (attached.map .value) := by
    intro given same
    obtain ⟨value, rfl, rfl⟩ := Option.map_eq_some_iff.1 same
    refine ⟨value, rfl, ?_⟩
    cases option_mapM_eq_ok_iff.1 read with
    | some loadedValue => exact plain_of_loadValue lawful loadedValue
  exact Scope.documented_of_compile blind (builtin "object" object) (builtin "array" array)
    (lawful.regular_of_readDocument readSchema) (by simp) table compiled

/-- If declared types keep out of the names of objects and arrays and no place of a tuple accepts
undefined, then what a check of a document has accepted can be printed, and once it has been read again
it is accepted as it is and printed as the same document. -/
theorem print_settles (lawful : languages.Lawful) {source : SchemaSource}
    {defaults : Option String} {struct : Struct} {path : String} {accepted : Value}
    (loaded : files.loadStruct languages source defaults = .ok struct)
    (object : files.KeepsOut languages source.config "object")
    (array : files.KeepsOut languages source.config "array")
    (gapless : Schema.Throughout [] (Schema.LeavesNoGaps []) struct.schema)
    (checked : files.checkDocument languages struct path = .ok (.ok accepted)) :
    ∃ document, accepted.toJson? = some document ∧
      struct.schema.validate [] struct.schema.height (.ofJson document) none =
        .ok (.ok (.ofJson document)) ∧
      (Value.ofJson document).toJson? = some document := by
  obtain ⟨value, read, run⟩ := bind_eq_ok_iff.1 checked
  -- A check that accepts has validated the value of the document.
  have validated : struct.schema.validate [] struct.schema.height value none =
      .ok (.ok accepted) := by
    split at run
    · rename_i outcome ran
      rw [ran, mapError_eq_ok_iff.1 (Except.ok.inj run)]
    · cases run
  have plain := plain_of_loadValue lawful read
  have reprints := (documented_of_loadStruct lawful object array loaded).reprints gapless (.inr plain)
    (fun _ => plain.isUndefined_eq) validated
  obtain ⟨document, rendered, same⟩ := (reprints.plain plain).exists_document
  -- What is read again of the document is the accepted value as it has been printed.
  refine ⟨document, rendered, ?_⟩
  rw [← same]
  exact ⟨reprints.again none, Value.toJson?_printed rendered⟩

/-- A schema, its default, a document and a type of its own, each in a file. -/
def parcel : Files := fun path =>
  if path = "s" then .ok "label: string?\nsize: [number, unit]\nfragile: boolean".toUTF8.data.toList
  else if path = "f" then .ok "fragile: false".toUTF8.data.toList
  else if path = "d" then .ok "size: [-0.0, cm]".toUTF8.data.toList
  else if path = "c" then
    .ok "types:\n  unit:\n    type: string\n    one_of: [cm, in]".toUTF8.data.toList
  else .error .missing

/-- A text that is one of two units. -/
def unit : Predicate :=
  TypeRule.predicate ⟨"unit", some (Registry.hasTag .string), none,
    some [.string "cm", .string "in"], none⟩

/-- The types that parcels are described by. -/
def parcelTypes : Registry :=
  Registry.builtin.extend (Registry.empty.register "unit" unit)

/-- The schema of a parcel as it is written. -/
def parcelDescription : Json :=
  .object [("label", .string "string?"), ("size", .array [.string "number", .string "unit"]),
    ("fragile", .string "boolean")]

/-- The default of a parcel. -/
def sturdy : Defaults :=
  .value (.object [("fragile", .bool false)])

/-- The schema of a parcel. -/
def parcelSchema : Schema :=
  let text : Schema := .scalar ⟨"string", none⟩ (Registry.hasTag .string)
  let nothing : Schema := .scalar ⟨"undefined", none⟩ (Registry.hasTag .undefined)
  .shape ⟨"\x7blabel,size,fragile\x7d", some sturdy⟩ .exact (Registry.hasTag .object)
    [("label", .union ⟨"string | undefined", none⟩ [text, nothing]),
      ("size", .tuple ⟨"[number,unit]", none⟩ (Registry.hasTag .array)
        [.scalar ⟨"number", none⟩ (Registry.hasTag .number), .scalar ⟨"unit", none⟩ unit]),
      ("fragile", .scalar ⟨"boolean", none⟩ (Registry.hasTag .boolean))]

/-- The names of the files of a parcel are not split at slashes and dots. -/
theorem splitOn_parcel : ∀ path ∈ ["s", "f", "d", "c"], ∀ separator ∈ ["/", "."],
    path.splitOn separator = [path] := by
  intro path among separator either
  simp only [List.mem_cons, List.not_mem_nil, or_false] at among either
  -- Each name has one character, which is not the separator, and then it ends.
  rcases among with rfl | rfl | rfl | rfl <;> rcases either with rfl | rfl <;>
  · rw [String.splitOn, if_neg (by decide), String.splitOnAux, if_neg (by decide),
      if_neg (by decide), String.splitOnAux, if_pos (by decide)]
    decide +kernel

/-- The files of a parcel have no extensions. -/
theorem pathExtension?_parcel {path : String} (among : path ∈ ["s", "f", "d", "c"]) :
    pathExtension? path = none := by
  -- Each of the paths is a single letter, so it is its own last name and has no dot.
  have named : ∀ path ∈ ["s", "f", "d", "c"], path ≠ "" ∧ path ≠ "." := by decide
  have slash := splitOn_parcel path among "/" (by simp)
  have dot := splitOn_parcel path among "." (by simp)
  simp [pathExtension?, slash, dot, named path among]

/-- What is written in the files of a parcel. -/
theorem readDocument_parcel :
    parcel.readDocument .standard "s" = .ok parcelDescription ∧
      parcel.readDocument .standard "f" = .ok (.object [("fragile", .bool false)]) ∧
      parcel.readDocument .standard "d" =
        .ok (.object [("size", .array [.float (Double.ofPattern true 0), .string "cm"])]) ∧
      parcel.readDocument .standard "c" = .ok (.object [("types", .object [("unit", .object
        [("type", .string "string"), ("one_of", .array [.string "cm", .string "in"])])])]) := by
  -- The bytes of each file are decoded and then read by the reader of the command line.
  refine ⟨?_, ?_, ?_, ?_⟩ <;>
    exact readDocument_of_yaml rfl (by decide +kernel) (pathExtension?_parcel (by simp))
      (by decide +kernel)

/-- The declared types of a parcel keep out of the built-in names. -/
theorem loadFactory_parcel :
    Config.load parcel .standard "c" = .ok ⟨[("unit", ⟨some "string", none,
        some [.string "cm", .string "in"], none⟩)]⟩ ∧
      parcel.loadFactory .standard (some "c") = .ok ⟨parcelTypes, none⟩ := by
  -- The configuration is what the document says, and its one type is registered.
  have read := readDocument_parcel.2.2.2
  have loaded : Config.load parcel .standard "c" = .ok ⟨[("unit", ⟨some "string", none,
      some [.string "cm", .string "in"], none⟩)]⟩ := by
    rw [Config.load, read]
    rfl
  refine ⟨loaded, ?_⟩
  rw [loadFactory, loaded]
  rfl

/-- The description of a parcel is compiled to its schema. -/
theorem compile_parcel :
    (Scope.mk parcelTypes []).compile (some sturdy) (.ofJson parcelDescription) =
      .ok parcelSchema := by
  -- Names are looked up; only the first of them has a question mark.
  have named : ∀ (name : String) (type : Predicate), name.toList.getLast? ≠ some '?' →
      '|' ∉ name.toList → '&' ∉ name.toList → parcelTypes.get? name = some type →
      (Scope.mk parcelTypes []).shorthand name.toList none = .ok (.scalar ⟨name, none⟩ type) := by
    intro name type unmarked noBar noAmpersand held
    rw [Shorthand.shorthand_of_name unmarked noBar noAmpersand]
    simp only [Scope.scalar, Scope.predicate, held, String.ofList_toList]
    rfl
  have text := named "string" _ (by decide) (by decide) (by decide) rfl
  have number := named "number" _ (by decide) (by decide) (by decide) rfl
  have size := named "unit" _ (by decide) (by decide) (by decide) rfl
  have truth := named "boolean" _ (by decide) (by decide) (by decide) rfl
  have marked : "string?".toList = "string".toList ++ ['?'] := by decide
  simp only [parcelDescription, Description.ofJson, Description.fieldsOfJson,
    Description.itemsOfJson, Scope.compile, Scope.compileFields, Scope.compileItems, marked,
    Shorthand.shorthand_concat, text, number, size, truth]
  rfl

/-- The struct of a parcel is loaded from its files. -/
theorem loadStruct_parcel :
    parcel.loadStruct .standard ⟨"s", some "c"⟩ (some "f") =
      .ok ⟨.ofJson parcelDescription, some sturdy, parcelTypes, parcelSchema⟩ := by
  -- The default and the schema are read in turn, and then the schema is compiled.
  have attached : parcel.loadValue .standard "f" = .ok (.object [("fragile", .bool false)]) := by
    rw [loadValue, readDocument_parcel.2.1]
    rfl
  have compiled : Factory.compile ⟨parcelTypes, some sturdy⟩ [] (.ofJson parcelDescription) =
      .ok ⟨.ofJson parcelDescription, some sturdy, parcelTypes, parcelSchema⟩ := by
    rw [Factory.compile_ofJson, Factory.scope, compile_parcel]
    rfl
  rw [loadStruct, loadFactory_parcel.2, Option.mapM_some, attached, readDocument_parcel.1]
  exact congrArg (Except.mapError _) compiled

/-- A scalar that refuses undefined, without a default of its own, never accepts it. -/
theorem refuses_undefined {type : String} {predicate : Predicate} {depth : Nat}
    {parent : Option Value} {accepted : Value}
    (refuses : (predicate .undefined parent).isPass = false) :
    Schema.validate [] depth (.scalar ⟨type, none⟩ predicate) .undefined parent ≠
      .ok (.ok accepted) := by
  -- A run that accepts would rest on the verdict of the predicate.
  intro checked
  cases depth with
  | zero => cases checked
  | succ depth =>
    cases Schema.concludes_of_checkEffective checked with
    | admitted leaf admits =>
      change (predicate .undefined parent).isPass = true at admits
      rw [refuses] at admits
      cases admits

/-- Neither place of the size of a parcel accepts undefined, and there is no other tuple. -/
theorem gapless_parcel : Schema.Throughout [] (Schema.LeavesNoGaps []) parcelSchema := by
  -- The parts of the schema are gone through from the outside; a scalar has none.
  have scalar : ∀ label predicate,
      Schema.Throughout [] (Schema.LeavesNoGaps []) (.scalar label predicate) :=
    fun label predicate => .of_below trivial fun next leads => by cases leads
  refine .of_below trivial fun next leads => ?_
  cases leads with
  | field declared =>
    simp only [List.mem_cons, Prod.mk.injEq, List.not_mem_nil, or_false] at declared
    rcases declared with ⟨-, rfl⟩ | ⟨-, rfl⟩ | ⟨-, rfl⟩
    · -- The unit is one of two scalars.
      refine .of_below trivial fun next leads => ?_
      cases leads with
      | alternative among =>
        simp only [List.mem_cons, List.not_mem_nil, or_false] at among
        rcases among with rfl | rfl <;> exact scalar _ _
    · -- The size is a tuple, whose places are scalars that refuse undefined.
      refine .of_below (fun depth item among parent accepted => ?_) fun next leads => ?_
      · simp only [List.mem_cons, List.not_mem_nil, or_false] at among
        rcases among with rfl | rfl <;> exact refuses_undefined rfl
      · cases leads with
        | item among =>
          simp only [List.mem_cons, List.not_mem_nil, or_false] at among
          rcases among with rfl | rfl <;> exact scalar _ _
    · exact scalar _ _

/-- A parcel without a fragile mark gets one, and its number loses the sign of zero when it is printed. -/
theorem print_settles_parcel : ∃ struct accepted,
    parcel.loadStruct .standard ⟨"s", some "c"⟩ (some "f") = .ok struct ∧
      parcel.checkDocument .standard struct "d" = .ok (.ok accepted) ∧
      accepted = .object [("size", .array [.number (Double.ofPattern true 0), .string "cm"]),
        ("fragile", .bool false)] ∧
      ∃ document, accepted.toJson? = some document ∧
        struct.schema.validate [] struct.schema.height (.ofJson document) none =
          .ok (.ok (.ofJson document)) ∧
        (Value.ofJson document).toJson? = some document := by
  -- The number and the unit are accepted as they are, and the mark comes from the default.
  have checked : parcel.checkDocument .standard
      ⟨.ofJson parcelDescription, some sturdy, parcelTypes, parcelSchema⟩ "d" =
        .ok (.ok (.object [("size", .array [.number (Double.ofPattern true 0), .string "cm"]),
          ("fragile", .bool false)])) := by
    rw [checkDocument, loadValue, readDocument_parcel.2.2.1]
    rfl
  -- The only declared type is that of units.
  have keepsOut : ∀ name, name ≠ "unit" → parcel.KeepsOut .standard (some "c") name := by
    intro name differs path config same loaded
    cases same
    rw [loadFactory_parcel.1] at loaded
    cases loaded
    simpa [Members.names] using differs
  exact ⟨_, _, loadStruct_parcel, checked, rfl,
    print_settles Languages.lawful_standard loadStruct_parcel (keepsOut "object" (by decide))
      (keepsOut "array" (by decide)) gapless_parcel checked⟩

end Files

end Conform
