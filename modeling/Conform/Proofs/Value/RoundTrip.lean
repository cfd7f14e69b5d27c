import Conform.Proofs.Json.RoundTrip
import Conform.Proofs.Traversal
import Conform.Proofs.Value.Data
import Conform.Proofs.Value.Nesting
import Conform.Proofs.Value.Rendering

/-! Plain data with safe integers is read back from its text. -/

namespace Conform

/-- An integer up to the safe limit, and not minus zero. -/
def Double.IsSafeInteger (x : Double) : Prop :=
  ∃ n, x.toInt? = some n ∧ n.natAbs ≤ safeLimit ∧ x ≠ ofPattern true 0

namespace Value

/-- A safe integer is described by the document that holds the integer. -/
theorem exists_document_of_number {x : Double} (safe : x.IsSafeInteger) (depth : Nat) :
    ∃ document : Json, (document.Canonical ∧ Json.Writable depth document) ∧
      ofJson document = number x := by
  -- A safe integer is within a word, and without minus zero it is the number of that integer.
  obtain ⟨n, integral, small, notMinusZero⟩ := safe
  rw [Double.safeLimit_eq] at small
  refine ⟨.integer n, ⟨small, .integer ?_ ?_⟩, ?_⟩
  · rw [wordCount]
    omega
  · rw [wordCount]
    omega
  · rcases Double.ofInt_eq_or integral with same | ⟨-, minusZero⟩
    · rw [ofJson, same]
    · exact absurd minusZero notMinusZero

/-- Plain data is described by a document that can be written and read. -/
theorem Data.exists_document {value : Value} (data : value.Data Double.IsSafeInteger) :
    ∀ depth, value.nesting ≤ depth → ∃ document : Json,
      (document.Canonical ∧ Json.Writable depth document) ∧ ofJson document = value := by
  induction data with
  | null => exact fun depth _ => ⟨.null, ⟨trivial, .null⟩, rfl⟩
  | bool truth => exact fun depth _ => ⟨.bool truth, ⟨trivial, .bool truth⟩, rfl⟩
  | number safe => exact fun depth _ => exists_document_of_number safe depth
  | string text => exact fun depth _ => ⟨.string text, ⟨trivial, .string text⟩, rfl⟩
  | @array items each ih =>
    intro depth shallow
    cases depth with
    | zero => exact absurd (nesting_array_pos items) (Nat.not_lt.2 shallow)
    | succ depth =>
      -- What is inside is nested one level less, so its documents are there.
      obtain ⟨documents, described, rfl⟩ := exists_map_eq fun item among =>
        ih item among depth
          (Nat.le_of_lt_succ (Nat.lt_of_lt_of_le (nesting_lt_of_mem_array among) shallow))
      have canonical := Json.allCanonical_iff.2 fun document among => (described document among).1
      have writable := fun document among => (described document among).2
      exact ⟨.array documents, ⟨canonical, .array writable⟩,
        congrArg Value.array (itemsOfJson_eq_map documents)⟩
  | @object members distinct each ih =>
    intro depth shallow
    cases depth with
    | zero => exact absurd (nesting_object_pos members) (Nat.not_lt.2 shallow)
    | succ depth =>
      -- Each member has a document under its name, nested one level less.
      have inside : ∀ member ∈ members, ∃ document : String × Json,
          (document.2.Canonical ∧ Json.Writable depth document.2) ∧
            (document.1, ofJson document.2) = member := by
        intro member among
        obtain ⟨name, item⟩ := member
        obtain ⟨document, described, rfl⟩ := ih name item among depth
          (Nat.le_of_lt_succ (Nat.lt_of_lt_of_le (nesting_lt_of_mem_object among) shallow))
        exact ⟨(name, document), described, rfl⟩
      obtain ⟨documents, described, rfl⟩ := exists_map_eq inside
      rw [← membersOfJson_eq_map, names_membersOfJson] at distinct
      have canonical := Json.membersCanonical_iff.2 fun member among => (described member among).1
      exact ⟨.object documents,
        ⟨canonical, .object distinct fun name item among => (described (name, item) among).2⟩,
        congrArg Value.object (membersOfJson_eq_map documents)⟩

/-- The text of plain data, in which numbers are safe integers and no more arrays and objects lie
inside one another than documents may have, is read back as the very same data, and it is the text
also where every value needs one. -/
theorem read?_stringify {value : Value} (data : value.Data Double.IsSafeInteger)
    (shallow : value.nesting ≤ Json.depthLimit) :
    (Json.read? value.stringify).map ofJson = some value ∧
      value.toJsonText = value.stringify := by
  -- The data is what a document describes, and that is written and read.
  obtain ⟨document, ⟨canonical, writable⟩, rfl⟩ := data.exists_document _ shallow
  have rendered := toJson?_ofJson canonical
  have written : (ofJson document).stringify = document.toText := by
    rw [stringify, rendered]
  constructor
  · rw [written, Json.read?_toText writable, Option.map_some]
  · rw [written, toJsonText, rendered, Option.getD_some]

/-- An object whose names and texts need every kind of escape. -/
def ledger : Value :=
  .object [("\"\\\t", .array [.null, .bool true, .number (.ofInt (-1200)), .array []]),
    ("", .object [("é\x01", .string "/\x08\x0c\n\r\x1f")])]

/-- The ledger is read back from its text, with its members in their order. -/
theorem read?_stringify_ledger :
    (Json.read? ledger.stringify).map ofJson = some ledger ∧
      ledger.toJsonText = ledger.stringify := by
  -- The members are gone through one by one; the number is safe, and all texts are.
  have safe : Double.IsSafeInteger (.ofInt (-1200)) :=
    ⟨-1200, (Double.toInt?_ofInt (by decide)).2, by decide, by decide +kernel⟩
  have list : Data Double.IsSafeInteger
      (.array [.null, .bool true, .number (.ofInt (-1200)), .array []]) := by
    refine .array fun item among => ?_
    simp only [List.mem_cons, List.not_mem_nil, or_false] at among
    rcases among with rfl | rfl | rfl | rfl
    · exact .null
    · exact .bool true
    · exact .number safe
    · exact .array (by simp)
  have inner : Data Double.IsSafeInteger (.object [("é\x01", .string "/\x08\x0c\n\r\x1f")]) := by
    refine .object (by simp [Members.names]) fun name item among => ?_
    simp only [List.mem_cons, Prod.mk.injEq, List.not_mem_nil, or_false] at among
    obtain ⟨rfl, rfl⟩ := among
    exact .string _
  have data : ledger.Data Double.IsSafeInteger := by
    refine .object (by decide) fun name item among => ?_
    simp only [List.mem_cons, Prod.mk.injEq, List.not_mem_nil, or_false] at among
    rcases among with ⟨rfl, rfl⟩ | ⟨rfl, rfl⟩
    · exact list
    · exact inner
  exact read?_stringify data (by decide)

end Value

end Conform
