import Conform.Check.Load

/-! What a check of documents prints, and how it ends. -/

namespace Conform

/-- How a run ends. -/
inductive Ending where
  /-- All went well. -/
  | success
  /-- Some document is not valid. -/
  | invalid
  /-- Something could not be done. -/
  | failure
deriving DecidableEq

/-- The number that a run ends with. -/
def Ending.code : Ending → Nat
  | success => 0
  | invalid => 1
  | failure => 2

/-- What a run has printed and how it ended, with the error if there was one. -/
structure Finish where
  ending : Ending
  output : String
  error : Option String

namespace Finish

/-- A run that ends with an error. -/
def ofError (error : CheckError) : Finish :=
  ⟨.failure, "", some error.message⟩

/-- A run that goes on after something has been printed about a document. -/
def precede (report : String) (valid : Bool) (later : Finish) : Finish :=
  -- A later failure outweighs an invalid document, which outweighs success.
  let ending := if later.ending = .success ∧ !valid then .invalid else later.ending
  { later with ending := ending, output := report ++ later.output }

end Finish

/-- Lines of text. -/
def unlines (lines : List String) : String :=
  String.join (lines.map (· ++ "\n"))

/-- Tells about the documents at some paths one after another, until one cannot be read or printed. -/
def Files.report (files : Files) (languages : Languages) (struct : Struct) (print : Bool) :
    List String → Finish
  | [] => ⟨.success, "", none⟩
  | path :: rest =>
    match files.checkDocument languages struct path with
    -- A document that cannot be read ends the run, and those after it are not looked at.
    | .error error => .ofError error
    | .ok (.error error) =>
      (files.report languages struct print rest).precede
        (unlines (("FAIL: " ++ path) :: error.report)) false
    | .ok (.ok value) =>
      let accepted := "OK: " ++ path
      if print then
        match value.toJson? with
        | some document =>
          (files.report languages struct print rest).precede
            (unlines [accepted, document.toPrettyText]) true
        -- The document was told to be valid before its value turned out to have no text.
        | none => (Finish.ofError (.print path value)).precede (unlines [accepted]) true
      else (files.report languages struct print rest).precede (unlines [accepted]) true

/-- Checks documents against a schema. -/
def Files.check (files : Files) (languages : Languages) (source : SchemaSource)
    (defaults : Option String) (print : Bool) (documents : List String) : Finish :=
  match files.loadStruct languages source defaults with
  | .ok struct => files.report languages struct print documents
  | .error error => .ofError error

/-- Tells what a schema is compiled to. -/
def Files.describe (files : Files) (languages : Languages) (source : SchemaSource) : Finish :=
  match files.loadStruct languages source none with
  | .ok struct => ⟨.success, unlines [struct.summary], none⟩
  | .error error => .ofError error

end Conform
