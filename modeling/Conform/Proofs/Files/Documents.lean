import Conform.Files.Document
import Conform.Proofs.Json.Finite
import Conform.Proofs.Value.Printed
import Conform.Standard

/-! Documents that have been read from files are plain data. -/

namespace Conform

namespace Yaml

variable {kind : List String → Prop} {text : List Char} {document : Json}

/-- An integer is read only if it fits a word. -/
theorem regular_of_integerJson? (made : integerJson? text = some (some document)) :
    document.Regular kind := by
  unfold integerJson? at made
  -- Of what does not fit, nothing is made.
  obtain ⟨n, -, fits⟩ := Option.bind_eq_some_iff.1 made
  split at fits
  · rename_i within
    cases fits
    exact .integer (by omega)
  · split at fits <;> cases fits

/-- A number that is no integer is read only if it is finite. -/
theorem regular_of_floatJson? (made : floatJson? text = some document) : document.Regular kind := by
  unfold floatJson? at made
  simp only [Option.bind_eq_bind] at made
  split at made
  · cases made
    exact .null
  · -- With a sign or without one, the decimal is asked whether it is finite.
    split at made
    all_goals
      obtain ⟨x, -, finite⟩ := Option.bind_eq_some_iff.1 made
      simp only [Option.ite_none_right_eq_some, Option.some.injEq] at finite
      obtain ⟨finite, rfl⟩ := finite
      exact .float finite

/-- What stands without quotes is read as a regular document. -/
theorem regular_of_plainJson? (made : plainJson? text = some document) : document.Regular kind := by
  unfold plainJson? at made
  -- Null comes first, then truth values, then integers, and then all other numbers.
  split at made
  · cases made
    exact .null
  · split at made
    · cases made
      exact .bool _
    · rename_i integer
      exact regular_of_integerJson? (integer.trans (congrArg some made))
    · -- What is no number stays a text.
      split at made
      · cases made
        exact .string _
      · cases made
        cases number : floatJson? text with
        | none => exact .string _
        | some document => exact regular_of_floatJson? number

/-- A scalar is read as a regular document. -/
theorem Scalar.regular_of_json? {scalar : Scalar} (made : scalar.json? = some document) :
    document.Regular kind := by
  unfold Scalar.json? at made
  split at made
  · cases made
  · -- Each core tag demands one kind of document.
    split at made
    · obtain ⟨truth, -, rfl⟩ := Option.map_eq_some_iff.1 made
      exact .bool truth
    · exact regular_of_integerJson? (Option.join_eq_some_iff.1 made)
    · exact regular_of_floatJson? made
    · simp only [Option.ite_none_right_eq_some, Option.some.injEq] at made
      obtain ⟨-, rfl⟩ := made
      exact .null
    · cases made
      exact .string _
    · split at made
      · exact regular_of_plainJson? made
      · cases made
        exact .string _

mutual

/-- A tree is read as a regular document with distinct names. -/
theorem Tree.regular_of_json? : ∀ (tree : Tree) {document : Json}, tree.json? = some document →
    document.Regular List.Nodup
  | scalar leaf, _, made => Scalar.regular_of_json? made
  -- Scalars are numbers within bounds, and collections are made of what stands in them.
  | sequence tag items, _, made => by
    unfold Tree.json? at made
    simp only [Option.ite_none_left_eq_some, Option.map_eq_some_iff] at made
    obtain ⟨-, documents, each, rfl⟩ := made
    exact .array (regular_of_itemsJson? items each)
  | mapping tag members, _, made => by
    unfold Tree.json? at made
    simp only [Option.ite_none_left_eq_some, Option.map_eq_some_iff] at made
    obtain ⟨-, documents, each, rfl⟩ := made
    exact .ofPairs (regular_of_membersJson? members each)

/-- Elements are read as regular documents. -/
theorem Tree.regular_of_itemsJson? : ∀ (items : List Tree) {documents : List Json},
    itemsJson? items = some documents → ∀ document ∈ documents, document.Regular List.Nodup
  | [], _, made => by
    -- Every element has been read as a document by itself.
    cases made
    simp
  | item :: rest, _, made => by
    simp only [itemsJson?, Option.bind_eq_bind, Option.bind_eq_some_iff] at made
    obtain ⟨first, readFirst, others, readOthers, same⟩ := made
    cases same
    exact List.forall_mem_cons.2
      ⟨regular_of_json? item readFirst, regular_of_itemsJson? rest readOthers⟩

/-- Members are read as regular documents. -/
theorem Tree.regular_of_membersJson? : ∀ (members : List (Tree × Tree))
    {documents : List (String × Json)}, membersJson? members = some documents →
    ∀ name document, (name, document) ∈ documents → document.Regular List.Nodup
  | [], _, made => by
    -- Every value has been read as a document by itself; the names are made distinct afterwards.
    cases made
    simp
  | (key, value) :: rest, _, made => by
    simp only [membersJson?, Option.bind_eq_bind, Option.bind_eq_some_iff] at made
    obtain ⟨text, -, first, readFirst, others, readOthers, same⟩ := made
    cases same
    intro name document among
    rcases List.mem_cons.1 among with here | later
    · cases here
      exact regular_of_json? value readFirst
    · exact regular_of_membersJson? rest readOthers name document later

end

/-- A document that a text writes holds finite numbers under distinct names. -/
theorem regular_of_readJson? {text : String} (read : readJson? text = some document) :
    document.Regular List.Nodup := by
  -- A text without any node is read as null.
  unfold readJson? at read
  obtain ⟨tree, -, made⟩ := Option.bind_eq_some_iff.1 read
  cases tree with
  | none =>
    cases made
    exact .null
  | some tree => exact tree.regular_of_json? made

end Yaml

namespace Languages

/-- What is asked of languages: a YAML text writes a document of finite numbers, integers that fit words,
and distinct names. -/
structure Lawful (languages : Languages) : Prop where
  regular : ∀ text document, languages.yaml? text = some document → document.Regular List.Nodup

/-- The languages of the command line are lawful. -/
theorem lawful_standard : standard.Lawful where
  regular := fun _ _ read => Yaml.regular_of_readJson? read

/-- A document that has been read from a file holds finite numbers under distinct names. -/
theorem Lawful.regular_of_readDocument {languages : Languages} (lawful : languages.Lawful)
    {files : Files} {path : String} {document : Json}
    (read : files.readDocument languages path = .ok document) : document.Regular List.Nodup := by
  unfold Files.readDocument at read
  split at read
  · cases read
  · -- The path tells which of the two formats the text is read in.
    split at read
    · split at read
      · rename_i made
        cases read
        exact Json.regular_of_read? made
      · cases read
    · split at read
      · rename_i made
        cases read
        exact lawful.regular _ _ made
      · cases read

end Languages

/-- What is written in a file without an extension is read as YAML. -/
theorem Files.readDocument_of_yaml {files : Files} {languages : Languages} {path text : String}
    {document : Json} (held : files path = .ok text.toUTF8.data.toList)
    (decoded : Utf8.decode? text.toUTF8.data.toList = some text)
    (plain : pathExtension? path = none) (read : languages.yaml? text = some document) :
    files.readDocument languages path = .ok document := by
  -- The bytes make the text again, and without an extension the path speaks of no JSON.
  have made : files.readText path = .ok text := by
    simp only [Files.readText, held, bind, Except.bind, decoded]
    rfl
  have yaml : isJsonPath path = false := by simp [isJsonPath, plain]
  simp only [Files.readDocument, made, yaml, read]
  rfl

/-- The value of a document with finite numbers and distinct names is plain data. -/
theorem Json.Regular.plain {document : Json} (regular : document.Regular List.Nodup) :
    (Value.ofJson document).Plain := by
  -- Each document has a value of its own kind, with the same names and with values of what stands in
  -- it.
  induction regular with
  | null => exact .null
  | bool truth => exact .bool truth
  | integer fits => exact .number (Double.isFinite_ofInt fits)
  | float finite => exact .number finite
  | string text => exact .string text
  | array each ih =>
    rw [Value.ofJson, Value.itemsOfJson_eq_map]
    refine .array fun item among => ?_
    obtain ⟨document, held, rfl⟩ := List.mem_map.1 among
    exact ih document held
  | object distinct each ih =>
    rw [Value.ofJson]
    refine .object (by rwa [Value.names_membersOfJson]) fun name item among => ?_
    rw [Value.membersOfJson_eq_map] at among
    obtain ⟨⟨_, document⟩, held, same⟩ := List.mem_map.1 among
    cases same
    exact ih _ document held

end Conform
