import Conform.Proofs.Value.Data
import Conform.Proofs.Value.Rendering
import Conform.Value.Equality

/-! What becomes of a value that is printed as a document and read again: only zeros lose their sign. -/

namespace Conform

namespace Double

/-- The number that is read again: zero has no sign any more. -/
def printed (x : Double) : Double :=
  if x = ofPattern true 0 then ofPattern false 0 else x

/-- A finite number is read again from its document. -/
theorem ofJson_toJson {x : Double} (finite : x.isFinite = true) :
    Value.ofJson x.toJson = .number x.printed := by
  by_cases minusZero : x = ofPattern true 0
  · -- A zero is written as an integer, which has no sign.
    subst minusZero
    have whole : (ofPattern true 0).toInt? = some 0 := by decide +kernel
    have plain : ofInt 0 = ofPattern false 0 := by decide +kernel
    have written : (ofPattern true 0).toJson = .integer 0 := by
      simp only [toJson, finite, whole, Bool.not_true, Bool.false_eq_true, if_false,
        Int.natAbs_zero, Nat.zero_le, if_true]
    rw [written, Value.ofJson, plain, printed, if_pos rfl]
  · rw [printed, if_neg minusZero, toJson, finite, Bool.not_true, if_neg Bool.false_ne_true]
    -- Other numbers are written as they are, or as the integer that they are.
    split
    · rename_i whole integral
      split
      · rcases ofInt_eq_or integral with same | ⟨-, zero⟩
        · rw [Value.ofJson, same]
        · exact absurd zero minusZero
      · rfl
    · rfl

/-- The number that is read again is finite as well. -/
theorem isFinite_printed {x : Double} (finite : x.isFinite = true) : x.printed.isFinite = true := by
  -- Only the sign of zero is changed.
  unfold printed
  split
  · decide +kernel
  · exact finite

/-- The number that is read again stands at the same place, and is no number where the other is none. -/
theorem position_printed (x : Double) :
    x.printed.position = x.position ∧ x.printed.isNaN = x.isNaN := by
  unfold printed
  split
  · -- Both zeros stand at one place.
    rename_i minusZero
    subst minusZero
    decide +kernel
  · exact ⟨rfl, rfl⟩

/-- The number that is read again equals the same numbers. -/
theorem sameNumber_printed (x y : Double) : y.sameNumber x.printed = y.sameNumber x := by
  rw [sameNumber, sameNumber, x.position_printed.1, x.position_printed.2]

end Double

namespace Value

/-- Plain data with finite numbers, which is what documents describe. -/
abbrev Plain : Value → Prop :=
  Data fun x => x.isFinite = true

/-- What is read again of a printed value; nothing of a value that has no document. -/
def printed (value : Value) : Value :=
  match value.toJson? with
  | some document => ofJson document
  | none => undefined

/-- A value is printed so that printing it again gives the same document. -/
theorem toJson?_printed {value : Value} {document : Json}
    (rendered : value.toJson? = some document) : value.printed.toJson? = some document := by
  -- The document is canonical, so its value is printed as the document.
  rw [printed, rendered]
  exact toJson?_ofJson (canonical_toJson? value rendered)

variable {value : Value}

/-- Plain data has a document. -/
theorem Plain.exists_document (plain : value.Plain) :
    ∃ document, value.toJson? = some document ∧ value.printed = ofJson document := by
  -- No plain data is of a sort that has no document.
  cases plain with
  | null | bool | number | string | array | object => exact ⟨_, rfl, rfl⟩

/-- The elements of an array are printed one by one. -/
theorem itemsOfJson_itemsToJson {items : List Value} (each : ∀ item ∈ items, item.Plain) :
    itemsOfJson (itemsToJson items) = items.map printed := by
  -- Each element has a document, which is read again as what is printed of it.
  induction items with
  | nil => rfl
  | cons item rest ih =>
    obtain ⟨document, rendered, same⟩ := (each item (by simp)).exists_document
    rw [itemsToJson, itemsOfJson, rendered, Option.getD_some, List.map_cons, same,
      ih fun other among => each other (by simp [among])]

/-- The members of an object are printed one by one, under their names. -/
theorem membersOfJson_membersToJson {members : Members Value}
    (each : ∀ name item, (name, item) ∈ members → item.Plain) :
    membersOfJson (membersToJson members) =
      members.map fun member => (member.1, member.2.printed) := by
  -- No member is left out, since each value has a document.
  induction members with
  | nil => rfl
  | cons member rest ih =>
    obtain ⟨name, item⟩ := member
    obtain ⟨document, rendered, same⟩ := (each name item (by simp)).exists_document
    rw [membersToJson, rendered, membersOfJson, List.map_cons, same,
      ih fun other item among => each other item (by simp [among])]

/-- An array of plain data is printed element by element. -/
theorem printed_array {items : List Value} (each : ∀ item ∈ items, item.Plain) :
    (array items).printed = array (items.map printed) := by
  -- An array has the document of its elements.
  rw [printed, toJson?]
  exact congrArg array (itemsOfJson_itemsToJson each)

/-- An object of plain data is printed member by member. -/
theorem printed_object {members : Members Value}
    (each : ∀ name item, (name, item) ∈ members → item.Plain) :
    (object members).printed = object (members.map fun member => (member.1, member.2.printed)) := by
  -- An object has the document of its members.
  rw [printed, toJson?]
  exact congrArg object (membersOfJson_membersToJson each)

/-- A finite number is printed without a sign on zero. -/
theorem printed_number {x : Double} (finite : x.isFinite = true) :
    (number x).printed = number x.printed :=
  Double.ofJson_toJson finite

/-- What is read again of plain data is plain data. -/
theorem Plain.printed (plain : value.Plain) : value.printed.Plain := by
  -- Numbers stay finite, and containers keep their elements and names.
  induction plain with
  | null => exact .null
  | bool truth => exact .bool truth
  | string text => exact .string text
  | number finite =>
    rw [printed_number finite]
    exact .number (Double.isFinite_printed finite)
  | array each ih =>
    rw [printed_array each]
    refine .array fun item among => ?_
    obtain ⟨origin, held, rfl⟩ := List.mem_map.1 among
    exact ih origin held
  | object distinct each ih =>
    rw [printed_object each]
    refine .object ((Members.names_map _ _).symm ▸ distinct) fun name item among => ?_
    obtain ⟨⟨origin, old⟩, held, same⟩ := List.mem_map.1 among
    cases same
    exact ih _ _ held

/-- Plain data or nothing at all, which is what stands at the places of plain data. -/
def Shown (value : Value) : Prop :=
  value = undefined ∨ value.Plain

/-- What an array holds that is shown is plain data. -/
theorem Shown.of_array {items : List Value} (shown : (array items).Shown) :
    ∀ item ∈ items, item.Plain := by
  -- An array is not undefined.
  rcases shown with undefined | plain
  · cases undefined
  · cases plain with
    | array each => exact each

/-- What an object holds that is shown is plain data, under distinct names. -/
theorem Shown.of_object {members : Members Value} (shown : (object members).Shown) :
    members.names.Nodup ∧ ∀ name item, (name, item) ∈ members → item.Plain := by
  -- An object is not undefined.
  rcases shown with undefined | plain
  · cases undefined
  · cases plain with
    | object distinct each => exact ⟨distinct, each⟩

/-- As far as predicates can tell, a value and what is read again of it are the same. -/
inductive Resembles : Value → Value → Prop
  | same (value : Value) : Resembles value value
  -- A number may be printed as its neighbour; predicates must not tell the two apart.
  | number (x : Double) : Resembles (number x) (number x.printed)
  | array (items others : List Value) : Resembles (array items) (array others)
  | object (members others : Members Value) : Resembles (object members) (object others)

namespace Resembles

variable {copy : Value}

/-- Both have one tag. -/
theorem tag_eq (resembles : value.Resembles copy) : copy.tag = value.tag := by
  cases resembles <;> rfl

/-- Both are undefined or neither is. -/
theorem isUndefined_eq (resembles : value.Resembles copy) :
    copy.isUndefined = value.isUndefined := by
  cases resembles <;> rfl

/-- Both are the same text or neither is a text. -/
theorem eq_string_iff (resembles : value.Resembles copy) (text : String) :
    copy = string text ↔ value = string text := by
  cases resembles <;> simp

/-- Both equal the same listed values. -/
theorem includes_eq (resembles : value.Resembles copy) (listed : Value) :
    listed.includes copy = listed.includes value := by
  cases resembles with
  | same => rfl
  | number x =>
    -- Numbers are compared by their places, and other values equal no number.
    cases listed with
    | number y => simp only [includes, x.sameNumber_printed y, x.position_printed.2]
    | _ => rfl
  | array | object =>
    -- No value equals a compound one.
    cases listed <;> rfl

end Resembles

/-- What is shown is either undefined or not. -/
theorem Shown.resembles (shown : value.Shown) : value.Resembles value.printed := by
  -- Printing changes the sign of zero and what stands in containers.
  rcases shown with rfl | plain
  · exact .same undefined
  · cases plain with
    | null | bool | string => exact .same _
    | number finite => exact printed_number finite ▸ .number _
    | array each => exact printed_array each ▸ .array _ _
    | object distinct each => exact printed_object each ▸ .object _ _

/-- Plain data is defined. -/
theorem Plain.isUndefined_eq (plain : value.Plain) : value.isUndefined = false := by
  cases plain <;> rfl

end Value

end Conform
