import Conform.Proofs.Number.Exactness
import Conform.Value.Json

/-! Rendering is a projection onto canonical documents: a document that comes from a value describes a
value that renders as the same document. -/

namespace Conform

namespace Json

mutual

/-- Whether every number in the document is in the one form that rendering gives it: below `2 ^ 53`
integers stand as such, without a sign on zero, and all other numbers stand as finite ones. -/
def Canonical : Json → Prop
  | integer n => n.natAbs ≤ 2 ^ 53 - 1
  -- No float may be an integer that would be written as one.
  | float x => x.isFinite = true ∧ ∀ n, x.toInt? = some n → 2 ^ 53 ≤ n.natAbs
  | array items => AllCanonical items
  | object members => MembersCanonical members
  | null | bool _ | string _ => True
termination_by structural document => document

/-- Whether every element is canonical. -/
def AllCanonical : List Json → Prop
  | [] => True
  | item :: rest => item.Canonical ∧ AllCanonical rest
termination_by structural items => items

/-- Whether every member is canonical. -/
def MembersCanonical : List (String × Json) → Prop
  | [] => True
  | (_, item) :: rest => item.Canonical ∧ MembersCanonical rest
termination_by structural members => members

end

/-- Elements are canonical if each of them is. -/
theorem allCanonical_iff {items : List Json} :
    AllCanonical items ↔ ∀ item ∈ items, item.Canonical := by
  -- The definition runs down the list just as membership does.
  induction items with
  | nil => simp [AllCanonical]
  | cons item rest ih => rw [AllCanonical, ih, List.forall_mem_cons]

/-- Members are canonical if each of their documents is. -/
theorem membersCanonical_iff {members : List (String × Json)} :
    MembersCanonical members ↔ ∀ member ∈ members, member.2.Canonical := by
  -- The members are gone through from the front.
  induction members with
  | nil => simp [MembersCanonical]
  | cons member rest ih =>
    obtain ⟨name, item⟩ := member
    rw [MembersCanonical, ih, List.forall_mem_cons]

/-- Documents keyed by their places are canonical if each of them is. -/
theorem canonical_indexed {items : List Json} (each : AllCanonical items) :
    (indexed items).Canonical := by
  rw [indexed, Canonical, membersCanonical_iff]
  intro member keyed
  -- The key does not matter, and behind it stands one of the items.
  obtain ⟨place, inside, rfl⟩ := List.mem_mapIdx.1 keyed
  exact allCanonical_iff.1 each _ (List.getElem_mem inside)

end Json

namespace Double

/-- Every number renders canonically. -/
theorem canonical_toJson (x : Double) : x.toJson.Canonical := by
  have limit := safeLimit_eq
  unfold toJson
  split
  · -- What is not finite is null.
    trivial
  · rename_i finite
    have isFinite : x.isFinite = true := by simpa using finite
    -- What is finite is an integer up to the limit, a larger one, or none at all.
    split
    · rename_i whole given
      split
      · rename_i safe
        rwa [limit] at safe
      · rename_i large
        refine ⟨isFinite, fun n same => ?_⟩
        rw [given, Option.some.injEq] at same
        subst same
        omega
    · -- A number with a fraction is no integer at all.
      rename_i fraction
      refine ⟨isFinite, fun n same => ?_⟩
      rw [fraction] at same
      cases same

/-- An integer up to the safe limit renders as itself. -/
theorem toJson_ofInt {n : Int} (safe : n.natAbs ≤ 2 ^ 53 - 1) : (ofInt n).toJson = .integer n := by
  -- Up to the limit every integer is a number of its own.
  rw [← safeLimit_eq] at safe
  obtain ⟨finite, given⟩ := toInt?_ofInt safe
  unfold toJson
  simp only [finite, given, Bool.not_true, Bool.false_eq_true, if_false, if_pos safe]

/-- A finite number that is no integer up to the safe limit renders as itself. -/
theorem toJson_of_large {x : Double} (finite : x.isFinite = true)
    (large : ∀ n, x.toInt? = some n → 2 ^ 53 ≤ n.natAbs) : x.toJson = .float x := by
  have limit := safeLimit_eq
  unfold toJson
  rw [finite, Bool.not_true, if_neg Bool.false_ne_true]
  split
  · -- An integer beyond the limit is not written as one.
    rename_i whole given
    have beyond := large whole given
    rw [if_neg]
    omega
  · rfl

end Double

namespace Value

mutual

/-- Whatever a value renders as is canonical. -/
theorem canonical_toJson? : ∀ (value : Value) {document}, value.toJson? = some document →
    document.Canonical
  | undefined, _, rendered | function _, _, rendered | symbol _, _, rendered => by cases rendered
  | null, _, rendered | bool _, _, rendered | string _, _, rendered | date none, _, rendered
  | date (some _), _, rendered => by
    cases rendered
    trivial
  | number n, _, rendered => by
    cases rendered
    exact n.canonical_toJson
  -- Containers are canonical because what they hold is.
  | array items, _, rendered => by
    cases rendered
    exact canonical_itemsToJson items
  | object members, _, rendered => by
    cases rendered
    exact canonical_membersToJson members
  | arguments items, _, rendered => by
    cases rendered
    exact Json.canonical_indexed (canonical_itemsToJson items)
  | typedArray elements, _, rendered => by
    cases rendered
    refine Json.canonical_indexed (Json.allCanonical_iff.2 fun item given => ?_)
    obtain ⟨n, _, rfl⟩ := List.mem_map.1 given
    exact n.canonical_toJson
  | buffer bytes, _, rendered => by
    cases rendered
    -- A byte is far below the limit.
    have small : Json.AllCanonical (bytes.map fun byte => .integer byte.toNat) := by
      refine Json.allCanonical_iff.2 fun item given => ?_
      obtain ⟨byte, _, rfl⟩ := List.mem_map.1 given
      have := byte.toNat_lt
      show (byte.toNat : Int).natAbs ≤ 2 ^ 53 - 1
      omega
    exact ⟨trivial, small, trivial⟩
  -- What has no members of its own renders as an empty object.
  | regexp _ _, _, rendered | error _ _, _, rendered | map _, _, rendered | set _, _, rendered
  | host _, _, rendered => by
    cases rendered
    trivial
termination_by structural value => value

/-- Whatever list elements render as is canonical. -/
theorem canonical_itemsToJson : ∀ items : List Value, Json.AllCanonical (itemsToJson items)
  | [] => trivial
  | item :: rest => by
    rw [itemsToJson]
    refine ⟨?_, canonical_itemsToJson rest⟩
    -- An element without a document is null.
    cases rendered : item.toJson? with
    | none => trivial
    | some document => exact canonical_toJson? item rendered
termination_by structural items => items

/-- Whatever members render as is canonical. -/
theorem canonical_membersToJson : ∀ members : List (String × Value),
    Json.MembersCanonical (membersToJson members)
  | [] => trivial
  | (name, value) :: rest => by
    rw [membersToJson]
    -- A member without a document is left out.
    cases rendered : value.toJson? with
    | none => exact canonical_membersToJson rest
    | some document =>
      exact ⟨canonical_toJson? value rendered, canonical_membersToJson rest⟩
termination_by structural members => members

end

mutual

/-- A canonical document describes a value that renders as the document. -/
theorem toJson?_ofJson : ∀ {document : Json}, document.Canonical →
    (ofJson document).toJson? = some document
  -- Only numbers could come back in another form, and canonical ones do not.
  | .null, _ | .bool _, _ | .string _, _ => rfl
  | .integer n, canonical => congrArg some (Double.toJson_ofInt canonical)
  | .float x, canonical => congrArg some (Double.toJson_of_large canonical.1 canonical.2)
  | .array items, canonical => by
    rw [ofJson, toJson?, itemsToJson_itemsOfJson canonical]
  | .object members, canonical => by
    rw [ofJson, toJson?, membersToJson_membersOfJson canonical]

/-- Canonical elements describe values that render as the elements. -/
theorem itemsToJson_itemsOfJson : ∀ {items : List Json}, Json.AllCanonical items →
    itemsToJson (itemsOfJson items) = items
  | [], _ => rfl
  -- No element of a document lacks a document.
  | item :: rest, canonical => by
    rw [itemsOfJson, itemsToJson, toJson?_ofJson canonical.1, Option.getD_some,
      itemsToJson_itemsOfJson canonical.2]

/-- Canonical members describe values that render as the members, in their order. -/
theorem membersToJson_membersOfJson : ∀ {members : List (String × Json)},
    Json.MembersCanonical members → membersToJson (membersOfJson members) = members
  | [], _ => rfl
  -- No member of a document is left out.
  | (name, item) :: rest, canonical => by
    rw [membersOfJson, membersToJson, toJson?_ofJson canonical.1,
      membersToJson_membersOfJson canonical.2]

end

/-- Values render as canonical documents, a canonical document describes a value that renders as the
document again, and so what has been rendered, read back and rendered again is the same document. -/
theorem rendering_projects :
    (∀ (value : Value) document, value.toJson? = some document → document.Canonical) ∧
    (∀ document : Json, document.Canonical → (ofJson document).toJson? = some document) ∧
    ∀ (value : Value) document, value.toJson? = some document →
      (ofJson document).toJson? = some document :=
  -- Rendering gives canonical documents only, and those are reproduced.
  ⟨fun value _ rendered => canonical_toJson? value rendered, fun _ => toJson?_ofJson,
    fun value _ rendered => toJson?_ofJson (canonical_toJson? value rendered)⟩

/-- Arguments that are undefined and a zero with a sign render as a document that is read back and
rendered as it is, with null and a plain zero in their places. -/
theorem rendering_projects_arguments :
    (arguments [undefined, number ⟨0x8000000000000000⟩]).toJson? =
        some (.object [("0", .null), ("1", .integer 0)]) ∧
      (Json.object [("0", .null), ("1", .integer 0)]).Canonical ∧
      (ofJson (.object [("0", .null), ("1", .integer 0)])).toJson? =
        some (.object [("0", .null), ("1", .integer 0)]) := by
  -- A zero is read as an integer whatever its sign.
  have zero : Double.toJson ⟨0x8000000000000000⟩ = .integer 0 := by
    have finite : Double.isFinite ⟨0x8000000000000000⟩ = true := by decide +kernel
    have whole : Double.toInt? ⟨0x8000000000000000⟩ = some 0 := by decide +kernel
    simp only [Double.toJson, finite, whole, Bool.not_true, Bool.false_eq_true, if_false,
      Int.natAbs_zero, Nat.zero_le, if_true]
  have rendered : (arguments [undefined, number ⟨0x8000000000000000⟩]).toJson? =
      some (.object [("0", .null), ("1", .integer 0)]) := by
    simp only [toJson?, itemsToJson, zero]
    rfl
  exact ⟨rendered, rendering_projects.1 _ _ rendered, rendering_projects.2.2 _ _ rendered⟩

end Value

end Conform
