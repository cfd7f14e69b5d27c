import Conform.Check.Arguments
import Conform.Proofs.Check.Lines
import Conform.Proofs.Check.Printing
import Conform.Proofs.Schema.Inward

/-! A check tells about every document up to the first that cannot be read, and its ending depends on
nothing but what it comes to with each document. -/

namespace Conform

namespace Ending

variable {ending other : Ending}

/-- The numbers of endings are those of the endings themselves. -/
theorem code_inj : ending.code = other.code ↔ ending = other := by
  cases ending <;> cases other <;> simp [code]

/-- Two endings are the same if both or neither fail, and both or neither succeed. -/
theorem eq_of_iff (fails : ending = .failure ↔ other = .failure)
    (succeeds : ending = .success ↔ other = .success) : ending = other := by
  cases ending <;> cases other <;> simp at fails succeeds <;> rfl

end Ending

/-- A document is accepted as something that can be printed. -/
theorem Value.Kept.exists_document {document : Json} {accepted : Value}
    (kept : (Value.ofJson document).Kept accepted) : ∃ printed, accepted.toJson? = some printed := by
  -- Only what is undefined would be accepted as anything, and no document is.
  cases document <;> cases kept <;> exact ⟨_, rfl⟩

namespace ValidationError

/-- The report of a settled error has a line for each of its failures, in their order. -/
theorem report_settle_eq (error : ValidationError) :
    error.settle.report =
      error.settle.failures.map fun failure => report.line failure failure.message :=
  rfl

end ValidationError

namespace Files

variable {files : Files} {languages : Languages} {struct : Struct} {print : Bool} {path : String}
  {rest documents : List String} {document : Json}

/-- Whether a document can be read. -/
def reads (files : Files) (languages : Languages) (path : String) : Bool :=
  (files.readDocument languages path).isOk

/-- What is reported about a document: that it is valid, with the lines of the accepted value's document if
that is asked for, from which it can be read back, or that it is not, with a line for each failure. -/
inductive Reported (files : Files) (languages : Languages) (struct : Struct) (print : Bool)
    (path : String) : String → Prop where
  | valid {accepted : Value} {printed : Json}
      (checked : files.checkDocument languages struct path = .ok (.ok accepted))
      (rendered : accepted.toJson? = some printed)
      -- A number with a fraction may be read back as a neighbour of itself, so it is left out here.
      (legible : Json.Writable Json.depthLimit printed →
        Json.read? (unlines printed.lines) = some printed) :
      Reported files languages struct print path
        (unlines (("OK: " ++ path) :: if print then printed.lines else []))
  | invalid {error : ValidationError}
      (checked : files.checkDocument languages struct path = .ok (.error error)) :
      Reported files languages struct print path
        (unlines (("FAIL: " ++ path) ::
          error.failures.map fun failure => ValidationError.report.line failure failure.message))

/-- Printed in one piece, the text of a document stands where its lines do. -/
theorem unlines_toPrettyText (line : String) (document : Json) :
    unlines [line, document.toPrettyText] = unlines (line :: document.lines) := by
  -- Behind the first line both texts are the printed document with a new line at its end.
  have printed := document.unlines_lines
  simp only [unlines, List.map_cons, List.map_nil, String.join_cons, String.join_nil,
    String.append_empty] at printed ⊢
  rw [printed]

/-- A document that can be read is checked by validating it. -/
theorem checkDocument_of_read (struct : Struct)
    (read : files.readDocument languages path = .ok document) :
    files.checkDocument languages struct path =
      match struct.schema.validate [] struct.schema.height (.ofJson document) none with
      | .ok outcome => .ok (outcome.mapError ValidationError.settle)
      | .error _ => .error (.unfinished path) := by
  -- Once the document has been read, nothing is left but to validate its value.
  rw [checkDocument, loadValue, read]
  rfl

/-- A document that cannot be read is not checked. -/
theorem checkDocument_of_unread (struct : Struct) {cause : SchemaError}
    (unread : files.readDocument languages path = .error cause) :
    files.checkDocument languages struct path = .error (.document path cause) := by
  -- The failure to read is reported under the path of the document.
  rw [checkDocument, loadValue, unread]
  rfl

/-- What the check of a document comes to if the document can be read: a verdict, with a value that can
be printed or an error that is told failure by failure. -/
inductive Judged (files : Files) (languages : Languages) (struct : Struct) (path : String) :
    Prop where
  | valid {accepted : Value} {printed : Json}
      (checked : files.checkDocument languages struct path = .ok (.ok accepted))
      (rendered : accepted.toJson? = some printed)
  | invalid {error : ValidationError}
      (checked : files.checkDocument languages struct path = .ok (.error error))
      (told : error.report =
        error.failures.map fun failure => ValidationError.report.line failure failure.message)

/-- A struct from files judges every document that can be read. -/
theorem judged_of_loadStruct {source : SchemaSource} {defaults : Option String}
    (loaded : files.loadStruct languages source defaults = .ok struct)
    (read : files.readDocument languages path = .ok document) :
    files.Judged languages struct path := by
  obtain ⟨factory, _, loaded⟩ := bind_eq_ok_iff.1 loaded
  obtain ⟨attached, _, loaded⟩ := bind_eq_ok_iff.1 loaded
  obtain ⟨described, _, loaded⟩ := bind_eq_ok_iff.1 loaded
  rw [mapError_eq_ok_iff, Factory.compile_ofJson] at loaded
  obtain ⟨schema, compiled, rfl⟩ := bind_pure_eq_ok_iff.1 loaded
  -- The schema leads inward, so its height is depth enough.
  have inward := Scope.inward_of_compile (fun _ => Description.unfinished_ofJson) compiled
  obtain ⟨outcome, validated⟩ :=
    Schema.exists_outcome_of_inward inward le_rfl (.ofJson document) none
  have checked := checkDocument_of_read
    ⟨.ofJson described, attached.map .value, factory.registry, schema⟩ read
  rw [validated] at checked
  cases outcome with
  | ok accepted =>
    obtain ⟨printed, rendered⟩ := (Schema.kept_validate validated).exists_document
    exact .valid checked rendered
  | error error => exact .invalid checked error.report_settle_eq

/-- A document that cannot be read is the end of a report. -/
theorem report_of_unread (struct : Struct) (print : Bool) (rest : List String) {cause : SchemaError}
    (unread : files.readDocument languages path = .error cause) :
    files.report languages struct print (path :: rest) = .ofError (.document path cause) := by
  rw [report, checkDocument_of_unread struct unread]

/-- A valid document is reported, and the report goes on as if it had not been there. -/
theorem report_of_valid (print : Bool) (rest : List String) {accepted : Value} {printed : Json}
    (checked : files.checkDocument languages struct path = .ok (.ok accepted))
    (rendered : accepted.toJson? = some printed) :
    files.report languages struct print (path :: rest) =
      (files.report languages struct print rest).precede
        (unlines (("OK: " ++ path) :: if print then printed.lines else [])) true := by
  -- The two reports of a valid document differ in what is printed behind its first line.
  cases print with
  | false => simp [report, checked]
  | true => simp [report, checked, rendered, unlines_toPrettyText]

/-- An invalid document is reported, and the report goes on. -/
theorem report_of_invalid (print : Bool) (rest : List String) {error : ValidationError}
    (checked : files.checkDocument languages struct path = .ok (.error error)) :
    files.report languages struct print (path :: rest) =
      (files.report languages struct print rest).precede
        (unlines (("FAIL: " ++ path) :: error.report)) false := by
  rw [report, checked]

/-- A run reports on documents as it should: it fails exactly if one cannot be read, it succeeds exactly
if all of them are valid, and it has told about each of them up to the first that cannot be read. -/
structure Tells (files : Files) (languages : Languages) (struct : Struct) (print : Bool)
    (documents : List String) (finish : Finish) : Prop where
  fails : finish.ending = .failure ↔
    ∃ path ∈ documents, ∃ cause, files.readDocument languages path = .error cause
  succeeds : finish.ending = .success ↔
    ∀ path ∈ documents, ∃ accepted, files.checkDocument languages struct path = .ok (.ok accepted)
  told : ∃ reports, List.Forall₂ (files.Reported languages struct print)
    (documents.takeWhile (files.reads languages)) reports ∧ finish.output = String.join reports

namespace Tells

variable {finish : Finish}

/-- A document that cannot be read is the end of what is told. -/
theorem unread {cause : SchemaError} (unread : files.readDocument languages path = .error cause)
    (error : CheckError) : files.Tells languages struct print (path :: rest) (.ofError error) where
  -- This document is the one that cannot be read.
  fails := iff_of_true rfl ⟨path, List.mem_cons_self, cause, unread⟩
  -- A document that cannot be read has not been accepted.
  succeeds := by
    refine iff_of_false nofun fun all => ?_
    obtain ⟨accepted, checked⟩ := all path List.mem_cons_self
    rw [checkDocument_of_unread struct unread] at checked
    cases checked
  -- No report is made of it or of what follows.
  told := by
    refine ⟨[], ?_, rfl⟩
    rw [List.takeWhile_cons_of_neg (by simp [reads, unread, Except.isOk, Except.toBool])]
    exact .nil

/-- What is told about a document that can be read stands in front of what is told about the rest. -/
theorem told_cons {report : String} (tells : files.Tells languages struct print rest finish)
    (read : files.readDocument languages path = .ok document)
    (reported : files.Reported languages struct print path report) (valid : Bool) :
    ∃ reports, List.Forall₂ (files.Reported languages struct print)
      ((path :: rest).takeWhile (files.reads languages)) reports ∧
        (finish.precede report valid).output = String.join reports := by
  -- The document counts among those before the first one that cannot be read.
  obtain ⟨reports, each, output⟩ := tells.told
  refine ⟨report :: reports, ?_, ?_⟩
  · rw [List.takeWhile_cons_of_pos (by simp [reads, read, Except.isOk, Except.toBool])]
    exact .cons reported each
  · rw [Finish.precede, output, String.join_cons]

/-- Whether a document behind one that can be read cannot be read. -/
theorem fails_cons (read : files.readDocument languages path = .ok document) :
    (∃ place ∈ path :: rest, ∃ cause, files.readDocument languages place = .error cause) ↔
      ∃ place ∈ rest, ∃ cause, files.readDocument languages place = .error cause := by
  simp [read]

/-- A valid document changes nothing about how a run ends. -/
theorem valid {accepted : Value} {printed : Json}
    (tells : files.Tells languages struct print rest finish)
    (read : files.readDocument languages path = .ok document)
    (checked : files.checkDocument languages struct path = .ok (.ok accepted))
    (rendered : accepted.toJson? = some printed) :
    files.Tells languages struct print (path :: rest) (finish.precede
      (unlines (("OK: " ++ path) :: if print then printed.lines else [])) true) where
  -- The document can be read, so a failure lies further on.
  fails := by rw [fails_cons read, ← tells.fails]; simp [Finish.precede]
  succeeds := by
    rw [List.forall_mem_cons, ← tells.succeeds]
    simp [Finish.precede, checked]
  told := tells.told_cons read (.valid checked rendered Json.read?_lines) true

/-- With an invalid document a run that would have succeeded does not, and any other ends as it would
have. -/
theorem invalid {error : ValidationError} (tells : files.Tells languages struct print rest finish)
    (read : files.readDocument languages path = .ok document)
    (checked : files.checkDocument languages struct path = .ok (.error error)) :
    files.Tells languages struct print (path :: rest) (finish.precede (unlines (("FAIL: " ++ path) ::
      error.failures.map fun failure => ValidationError.report.line failure failure.message))
        false) where
  -- An invalid document does not hide a failure further on.
  fails := by
    rw [fails_cons read, ← tells.fails]
    cases same : finish.ending <;> simp [Finish.precede, same]
  -- The run ends with success in neither case.
  succeeds := by
    rw [List.forall_mem_cons]
    cases same : finish.ending <;> simp [Finish.precede, same, checked]
  told := tells.told_cons read (.invalid checked) false

end Tells

/-- The report of a struct that judges every document that can be read tells about the documents. -/
theorem tells_report (judged : ∀ path document, files.readDocument languages path = .ok document →
    files.Judged languages struct path) (print : Bool) (documents : List String) :
    files.Tells languages struct print documents (files.report languages struct print documents) := by
  -- Each document is the end of the report or stands in front of the report of those behind it.
  induction documents with
  | nil => exact ⟨by simp [report], by simp [report], [], .nil, rfl⟩
  | cons path rest ih =>
    cases read : files.readDocument languages path with
    | error cause =>
      rw [report_of_unread struct print rest read]
      exact .unread read _
    | ok document =>
      cases judged path document read with
      | valid checked rendered =>
        rw [report_of_valid print rest checked rendered]
        exact ih.valid read checked rendered
      | invalid checked told =>
        rw [report_of_invalid print rest checked, told]
        exact ih.invalid read checked

/-- A run that tells about documents ends as an invalid one exactly if all of them can be read and one of
them is invalid. -/
theorem Tells.invalid_iff {finish : Finish}
    (tells : files.Tells languages struct print documents finish)
    (judged : ∀ path document, files.readDocument languages path = .ok document →
      files.Judged languages struct path) :
    finish.ending = .invalid ↔
      (∀ path ∈ documents, ∃ document, files.readDocument languages path = .ok document) ∧
        ∃ path ∈ documents, ∃ error,
          files.checkDocument languages struct path = .ok (.error error) := by
  have remains : finish.ending = .invalid ↔
      finish.ending ≠ .failure ∧ finish.ending ≠ .success := by
    cases finish.ending <;> simp
  have unfailing : finish.ending ≠ .failure ↔
      ∀ path ∈ documents, ∃ document, files.readDocument languages path = .ok document := by
    rw [ne_eq, tells.fails]
    push Not
    refine forall₂_congr fun path among => ?_
    cases files.readDocument languages path <;> simp
  rw [remains, unfailing, ne_eq, tells.succeeds]
  refine and_congr_right fun readable => ?_
  push Not
  refine exists_congr fun path => and_congr_right fun among => ?_
  -- A document that can be read is either valid or invalid.
  obtain ⟨document, read⟩ := readable path among
  cases judged path document read with
  | valid checked rendered => simp [checked]
  | invalid checked told => simp [checked]

/-- With a struct that has been loaded, a check of documents is the report on them. -/
theorem tells_check {source : SchemaSource} {defaults : Option String}
    (loaded : files.loadStruct languages source defaults = .ok struct) (print : Bool)
    (documents : List String) :
    files.Tells languages struct print documents
      (files.check languages source defaults print documents) := by
  -- What has been loaded from files accepts only what can be printed, and always comes to an end.
  rw [check, loaded]
  exact tells_report (fun path document => judged_of_loadStruct loaded) print documents

/-- How a check ends depends on what documents it is about, and not on their order or number or on
whether accepted values are printed. -/
theorem ending_check_congr (source : SchemaSource) (defaults : Option String) (print shown : Bool)
    {places : List String} (same : ∀ path, path ∈ places ↔ path ∈ documents) :
    (files.check languages source defaults shown places).ending =
      (files.check languages source defaults print documents).ending := by
  -- Without a struct both fail, and with one the ending says which documents there are.
  cases loaded : files.loadStruct languages source defaults with
  | error error => rw [check, check, loaded]
  | ok struct =>
    have tells := tells_check loaded print documents
    have others := tells_check loaded shown places
    refine Ending.eq_of_iff ?_ ?_
    · rw [others.fails, tells.fails]
      simp only [same]
    · rw [others.succeeds, tells.succeeds]
      simp only [same]

/-- A check of documents ends with two exactly if the struct cannot be loaded from its files or one of the
documents cannot be read; otherwise it ends with one exactly if one of them is invalid, and with zero
exactly if all of them are valid. So it ends alike for the same documents in any order and number, whether
accepted values are printed or not. If the struct is loaded, the report is that of each document up to the
first that cannot be read, one behind the other, and if not, there is none. -/
theorem check_tells {arguments : List String} {source : SchemaSource} {defaults : Option String}
    (request : Request.ofArguments? arguments = some (.check source defaults print documents)) :
    ((files.runArguments languages arguments).ending.code = 2 ↔
      (∃ error, files.loadStruct languages source defaults = .error error) ∨
        ∃ path ∈ documents, ∃ cause, files.readDocument languages path = .error cause) ∧
    ((files.runArguments languages arguments).ending.code = 1 ↔
      ∃ struct, files.loadStruct languages source defaults = .ok struct ∧
        (∀ path ∈ documents, ∃ document, files.readDocument languages path = .ok document) ∧
        ∃ path ∈ documents, ∃ error,
          files.checkDocument languages struct path = .ok (.error error)) ∧
    ((files.runArguments languages arguments).ending.code = 0 ↔
      ∃ struct, files.loadStruct languages source defaults = .ok struct ∧
        ∀ path ∈ documents, ∃ accepted,
          files.checkDocument languages struct path = .ok (.ok accepted)) ∧
    (∀ others shown places,
      Request.ofArguments? others = some (.check source defaults shown places) →
      (∀ path, path ∈ places ↔ path ∈ documents) →
      (files.runArguments languages others).ending =
        (files.runArguments languages arguments).ending) ∧
    (∀ error, files.loadStruct languages source defaults = .error error →
      (files.runArguments languages arguments).output = "") ∧
    ∀ struct, files.loadStruct languages source defaults = .ok struct →
      ∃ reports, List.Forall₂ (files.Reported languages struct print)
        (documents.takeWhile (files.reads languages)) reports ∧
          (files.runArguments languages arguments).output = String.join reports := by
  -- The arguments only say which files to check.
  have runs : ∀ {given shown places},
      Request.ofArguments? given = some (.check source defaults shown places) →
      files.runArguments languages given = files.check languages source defaults shown places := by
    intro given shown places request
    rw [runArguments, request]
    rfl
  rw [runs request]
  have congr : ∀ others shown places,
      Request.ofArguments? others = some (.check source defaults shown places) →
      (∀ path, path ∈ places ↔ path ∈ documents) →
      (files.runArguments languages others).ending =
        (files.check languages source defaults print documents).ending := by
    intro others shown places request same
    rw [runs request, ending_check_congr source defaults print shown same]
  -- Without a struct nothing is told, and with one each of the three endings is told by the
  -- documents.
  cases loaded : files.loadStruct languages source defaults with
  | error error =>
    have failed : files.check languages source defaults print documents = .ofError error := by
      rw [check, loaded]
    rw [failed] at congr ⊢
    exact ⟨iff_of_true rfl (.inl ⟨error, rfl⟩), iff_of_false nofun (by simp),
      iff_of_false nofun (by simp), congr, fun _ _ => rfl, nofun⟩
  | ok struct =>
    have tells := tells_check loaded print documents
    -- With every document read, the middle ending is what the other two leave over.
    have invalid := tells.invalid_iff fun path document => judged_of_loadStruct loaded
    refine ⟨?_, ?_, ?_, congr, nofun, ?_⟩
    · rw [show 2 = Ending.failure.code from rfl, Ending.code_inj, tells.fails]
      simp
    · rw [show 1 = Ending.invalid.code from rfl, Ending.code_inj, invalid]
      simp
    · rw [show 0 = Ending.success.code from rfl, Ending.code_inj, tells.succeeds]
      simp
    · intro other same
      obtain rfl := Except.ok.inj same
      exact tells.told

/-- The arguments that ask for a check of some documents against the files of a parcel. -/
def parcelArguments (print : Bool) (documents : List String) : List String :=
  ["check", "--schema", "s", "--config", "c", "--defaults", "f"] ++
    (if print then ["--print"] else []) ++ documents

/-- The arguments of a parcel are understood. -/
theorem ofArguments?_parcel (print : Bool) :
    ∀ documents ∈ [["d"], ["d", "f"], ["f", "d", "d"], ["d", "f", "x", "d"]],
      Request.ofArguments? (parcelArguments print documents) =
        some (.check ⟨"s", some "c"⟩ (some "f") print documents) := by
  intro documents among
  simp only [List.mem_cons, List.not_mem_nil, or_false] at among
  -- The options come first, and every argument after them is a document.
  cases print <;> rcases among with rfl | rfl | rfl | rfl <;>
  · simp [parcelArguments, Request.ofArguments?, Request.readCommand, Request.readCheck,
      Request.readArguments, Request.splitOption, Request.takesValue, Request.isOption,
      Request.setOption, Request.setOnce, Request.setFlag, Request.addDocument]
    rfl

/-- The second of two documents is invalid, which is so in any order. A missing one ends the report of the
two in front of it. The valid one is printed over its lines. -/
theorem check_tells_parcel :
    (parcel.runArguments .standard (parcelArguments false ["d", "f"])).ending.code = 1 ∧
      (parcel.runArguments .standard (parcelArguments false ["f", "d", "d"])).ending.code = 1 ∧
      (parcel.runArguments .standard
        (parcelArguments false ["d", "f", "x", "d"])).ending.code = 2 ∧
      (∃ failures : List String, (parcel.runArguments .standard
        (parcelArguments false ["d", "f", "x", "d"])).output =
          unlines ["OK: d"] ++ unlines ("FAIL: f" :: failures)) ∧
      (parcel.runArguments .standard (parcelArguments true ["d"])).output =
        unlines ["OK: d", "\x7b", "  \"size\": [", "    0,", "    \"cm\"", "  ],",
          "  \"fragile\": false", "\x7d"] := by
  -- The files are read as before, and the two documents are checked by the struct they are loaded
  -- into.
  obtain ⟨_, read, readToo, _⟩ := readDocument_parcel
  have missing : parcel.readDocument .standard "x" = .error (.load "x" (.unreadable .missing)) := rfl
  have valid : parcel.checkDocument .standard
      ⟨.ofJson parcelDescription, some sturdy, parcelTypes, parcelSchema⟩ "d" =
        .ok (.ok (.object [("size", .array [.number (Double.ofPattern true 0), .string "cm"]),
          ("fragile", .bool false)])) := by
    rw [checkDocument_of_read _ readToo]
    rfl
  have invalid : ∃ error, parcel.checkDocument .standard
      ⟨.ofJson parcelDescription, some sturdy, parcelTypes, parcelSchema⟩ "f" =
        .ok (.error error) := by
    rw [checkDocument_of_read _ read]
    exact ⟨_, rfl⟩
  -- The three runs differ in their documents and in whether accepted values are printed.
  obtain ⟨_, one, _, alike, _⟩ :=
    @check_tells parcel .standard false _ _ _ _ (ofArguments?_parcel false ["d", "f"] (by simp))
  obtain ⟨fails, _, _, _, _, told⟩ := @check_tells parcel .standard false _ _ _ _
    (ofArguments?_parcel false ["d", "f", "x", "d"] (by simp))
  obtain ⟨_, _, _, _, _, shown⟩ :=
    @check_tells parcel .standard true _ _ _ _ (ofArguments?_parcel true ["d"] (by simp))
  have once := one.2 ⟨_, loadStruct_parcel, by simp [read, readToo], "f", by simp, invalid⟩
  refine ⟨once, ?_, fails.2 (.inr ⟨"x", by simp, _, missing⟩), ?_, ?_⟩
  · rw [alike _ _ _ (ofArguments?_parcel false ["f", "d", "d"] (by simp)) (by simp [or_comm])]
    exact once
  · obtain ⟨reports, each, output⟩ := told _ loadStruct_parcel
    have before : ["d", "f", "x", "d"].takeWhile (parcel.reads .standard) = ["d", "f"] := by
      simp [reads, read, readToo, missing, Except.isOk, Except.toBool]
    obtain ⟨error, invalid⟩ := invalid
    rw [before] at each
    obtain ⟨first, _, head, tail, rfl⟩ := List.forall₂_cons_left_iff.1 each
    obtain ⟨second, _, last, none, rfl⟩ := List.forall₂_cons_left_iff.1 tail
    obtain rfl := List.forall₂_nil_left_iff.1 none
    -- The first document is not invalid, and the second is not valid.
    cases head with
    | invalid checked => rw [valid] at checked; cases checked
    | valid =>
      cases last with
      | valid checked => rw [invalid] at checked; cases checked
      | @invalid failing =>
        refine ⟨failing.failures.map fun failure =>
          ValidationError.report.line failure failure.message, ?_⟩
        rw [output, String.join_cons, String.join_cons, String.join_nil, String.append_empty]
        rfl
  · obtain ⟨reports, each, output⟩ := shown _ loadStruct_parcel
    have before : ["d"].takeWhile (parcel.reads .standard) = ["d"] := by
      simp [reads, readToo, Except.isOk, Except.toBool]
    rw [before] at each
    obtain ⟨only, _, head, none, rfl⟩ := List.forall₂_cons_left_iff.1 each
    obtain rfl := List.forall₂_nil_left_iff.1 none
    rw [output, String.join_cons, String.join_nil, String.append_empty]
    cases head with
    | invalid checked => rw [valid] at checked; cases checked
    | valid checked rendered =>
      -- The document that is printed is that of the value that has been accepted.
      obtain rfl := Except.ok.inj (Except.ok.inj (checked.symm.trans valid))
      obtain rfl := Option.some.inj rendered
      decide +kernel

end Files

end Conform
