import Conform.Proofs.Number.Exactness
import Conform.Proofs.Value.Parts
import Conform.Value.Equality
import Mathlib.Data.List.Perm.Subperm

/-! Equality by structure is symmetric and transitive, and every value equals itself unless it holds
what is no number. It compares what two values show of themselves, and then what stands in them spot by
spot, so the order of members plays no part. -/

namespace Conform

/-- A pattern up to infinity is a number under either sign. -/
theorem Double.isNaN_ofPattern {negative : Bool} {pattern : Nat}
    (limited : pattern ≤ BinaryFormat.wide.infinity) :
    (ofPattern negative pattern).isNaN = false := by
  -- What is no number has a pattern beyond infinity.
  have room : pattern < BinaryFormat.wide.signBit := by
    rw [infinity_wide] at limited
    rw [signBit_wide]
    omega
  rw [isNaN, pattern_ofPattern room]
  exact decide_eq_false (Nat.not_lt.2 limited)

/-- Whether the pattern of thirty-two bits stands for no number. -/
def Single.isNaN (x : Single) : Bool :=
  BinaryFormat.narrow.infinity < x.pattern

/-- A number of thirty-two bits is one in sixty-four bits as well. -/
theorem Single.isNaN_widen (x : Single) : x.widen.isNaN = x.isNaN := by
  unfold widen isNaN
  split
  · -- A finite number is rounded to a pattern that is at most infinite.
    rename_i finite
    rw [decide_eq_false (by omega)]
    exact Double.isNaN_ofPattern (Nat.min_le_right _ _)
  · split
    · rename_i infinite
      rw [decide_eq_false (by omega)]
      exact Double.isNaN_ofPattern (Nat.le_refl _)
    · rename_i notFinite notInfinite
      rw [decide_eq_true (by omega)]
      decide

/-- Numbers are equal when both are numbers that stand in one place. -/
theorem Double.sameNumber_iff (x y : Double) :
    x.sameNumber y = true ↔ x.isNaN = false ∧ y.isNaN = false ∧ x.position = y.position := by
  simp [sameNumber, and_assoc]

namespace TypedArray

/-- What equality sees of an array of numbers: the words, or where the numbers stand on the line. -/
inductive Face where
  | words (array : TypedArray)
  | singles (positions : List Int)
  | doubles (positions : List Int)

/-- What an array of numbers shows of itself. -/
def face : TypedArray → Face
  | float32 items => .singles (items.map fun n => n.widen.position)
  | float64 items => .doubles (items.map Double.position)
  -- Integers of a fixed width are equal only if they are the same.
  | words => .words words

/-- Whether an array of numbers holds what is no number. -/
def holdsNaN : TypedArray → Bool
  | float32 items => items.any Single.isNaN
  | float64 items => items.any Double.isNaN
  | _ => false

/-- Rows of numbers are equal when all of them are numbers and stand in the same places. -/
theorem sameNumbers_iff {α : Type} (number : α → Double) (xs ys : List α) :
    (xs.length == ys.length &&
        (xs.zip ys).all fun pair => (number pair.1).sameNumber (number pair.2)) = true ↔
      (∀ x ∈ xs, (number x).isNaN = false) ∧ (∀ y ∈ ys, (number y).isNaN = false) ∧
        (xs.map fun x => (number x).position) = ys.map fun y => (number y).position := by
  -- The rows are compared pair by pair, from their beginnings.
  induction xs generalizing ys with
  | nil => cases ys <;> simp
  | cons x xs ih =>
    cases ys with
    | nil => simp
    | cons y ys =>
      have rest := ih ys
      simp only [Bool.and_eq_true, beq_iff_eq] at rest
      simp only [List.length_cons, List.zip_cons_cons, List.all_cons, Bool.and_eq_true, beq_iff_eq,
        Nat.add_right_cancel_iff, Double.sameNumber_iff, List.forall_mem_cons, List.map_cons,
        List.cons.injEq]
      rw [and_left_comm, rest]
      constructor
      · rintro ⟨⟨number, numberToo, same⟩, numbers, numbersToo, others⟩
        exact ⟨⟨number, numbers⟩, ⟨numberToo, numbersToo⟩, same, others⟩
      · rintro ⟨⟨number, numbers⟩, ⟨numberToo, numbersToo⟩, same, others⟩
        exact ⟨⟨number, numberToo, same⟩, numbers, numbersToo, others⟩

/-- Arrays of numbers are equal when they hold numbers only and show the same. -/
theorem same_iff (a b : TypedArray) :
    a.same b = true ↔ a.holdsNaN = false ∧ b.holdsNaN = false ∧ a.face = b.face := by
  -- Arrays of integers hold numbers only, and those of the two sorts of doubles are compared number
  -- by number.
  cases a with
  | float32 xs =>
    cases b with
    | float32 ys =>
      have numbers := sameNumbers_iff Single.widen xs ys
      simpa [same, holdsNaN, face, Single.isNaN_widen] using numbers
    | _ => simp [same, holdsNaN, face]
  | float64 xs =>
    cases b with
    | float64 ys =>
      have numbers := sameNumbers_iff id xs ys
      simpa [same, holdsNaN, face] using numbers
    | _ => simp [same, holdsNaN, face]
  | _ => cases b <;> simp [same, holdsNaN, face]

end TypedArray

namespace Value

/-- What equality sees of a value before it looks at what stands in it: a number by its place on the
line, functions and host objects by their identity, and containers as empty ones. -/
inductive Face where
  | plain (value : Value)
  | number (position : Int)
  | numbers (face : TypedArray.Face)

/-- What a value shows of itself. -/
def face : Value → Face
  | number n => .number n.position
  | typedArray elements => .numbers elements.face
  | function callable => .plain (function { callable with name := "", generator := false })
  | host owned => .plain (host { owned with classTag := "", generator := false, payload := "" })
  | array _ => .plain (array [])
  | object _ => .plain (object [])
  | arguments _ => .plain (arguments [])
  | map _ => .plain (map [])
  | set _ => .plain (set [])
  | value => .plain value

/-- Whether a value itself, and nothing that stands in it, is or has among its numbers what is none. -/
def isNaN : Value → Bool
  | number n => n.isNaN
  -- An array of numbers has no parts of its own, so its numbers count as its.
  | typedArray elements => elements.holdsNaN
  | _ => false

/-- Whether a value is no container of values. -/
def isLeaf : Value → Bool
  | array _ | object _ | arguments _ | map _ | set _ => false
  | _ => true

/-- Two values look alike: what they show of themselves is the same, and a number if it is to be one. -/
structure LooksLike (a b : Value) : Prop where
  isNumber : a.isNaN = false
  isNumberToo : b.isNaN = false
  face : a.face = b.face

/-- Spots are alike where nothing stands at either or equal values stand at both. -/
def Alike : Option Value → Option Value → Prop :=
  Option.Rel fun x y => x.same y = true

variable {a b c : Value}

/-- Looking alike comes down to three conditions. -/
theorem looksLike_iff : a.LooksLike b ↔ a.isNaN = false ∧ b.isNaN = false ∧ a.face = b.face := by
  -- The three conditions are its fields.
  constructor
  · intro alike
    exact ⟨alike.isNumber, alike.isNumberToo, alike.face⟩
  · intro conditions
    obtain ⟨isNumber, isNumberToo, face⟩ := conditions
    exact ⟨isNumber, isNumberToo, face⟩

/-- Values that are no containers are equal when they look alike. -/
theorem same_iff_of_leaf (leaf : a.isLeaf = true) (b : Value) :
    a.same b = true ↔ a.LooksLike b := by
  rw [looksLike_iff]
  -- Values of different sorts look different and are never equal.
  cases a with
  | array | object | arguments | map | set => cases leaf
  | number x =>
    cases b with
    | number y => simp [same, isNaN, face, Double.sameNumber_iff]
    | _ => simp [same, face]
  | typedArray elements =>
    cases b with
    | typedArray others => simp [same, isNaN, face, TypedArray.same_iff]
    | _ => simp [same, face]
  | _ => cases b <;> simp [same, isNaN, face]

/-- Nothing stands in what is no container. -/
theorem part?_of_leaf (leaf : a.isLeaf = true) (spot : Spot) : a.part? spot = none := by
  -- Only five sorts of values have anything standing in them.
  cases a with
  | array | object | arguments | map | set => cases leaf
  | _ => rfl

/-- What looks like something that is no container is none either. -/
theorem LooksLike.isLeaf_eq (alike : a.LooksLike b) : a.isLeaf = b.isLeaf := by
  -- The face of a value tells its sort.
  have face := alike.face
  cases a <;> cases b <;> first | rfl | cases face

/-- Where nothing stands at either of two spots, they are alike. -/
@[simp] theorem alike_none : Alike none none :=
  .none

/-- Where something stands at both of two spots, they are alike if it is equal. -/
@[simp] theorem alike_some : Alike (some a) (some b) ↔ a.same b = true := by
  -- With something on both sides there is one way to be alike.
  constructor
  · intro alike
    cases alike
    assumption
  · intro equal
    exact Option.Rel.some equal

/-- Nothing is not like something. -/
@[simp] theorem not_alike_none_some : ¬ Alike none (some b) :=
  nofun

/-- Something is not like nothing. -/
@[simp] theorem not_alike_some_none : ¬ Alike (some a) none :=
  nofun

/-- Rows are equal when they are alike at every place. -/
theorem sameItems_iff (xs ys : List Value) :
    sameItems xs ys = true ↔ ∀ place : Nat, Alike xs[place]? ys[place]? := by
  -- The first elements stand at the first place, and the others one place further on.
  induction xs generalizing ys with
  | nil =>
    cases ys with
    | nil => simp [sameItems]
    | cons y ys => simpa [sameItems] using ⟨0, by simp⟩
  | cons x xs ih =>
    cases ys with
    | nil => simpa [sameItems] using ⟨0, by simp⟩
    | cons y ys =>
      refine Iff.trans ?_ Nat.and_forall_add_one
      rw [sameItems, Bool.and_eq_true, ih, List.getElem?_cons_zero, List.getElem?_cons_zero, alike_some]
      simp only [List.getElem?_cons_succ]

/-- Entries of maps are equal when their keys and what these lead to are alike at every place. -/
theorem sameEntries_iff (xs ys : List (Value × Value)) :
    sameEntries xs ys = true ↔
      ∀ place : Nat, Alike (xs[place]?.map Prod.fst) (ys[place]?.map Prod.fst) ∧
        Alike (xs[place]?.map Prod.snd) (ys[place]?.map Prod.snd) := by
  -- Entries are compared from the front, so the first place is split off from the later ones.
  induction xs generalizing ys with
  | nil =>
    cases ys with
    | nil => simp [sameEntries]
    | cons y ys => simpa [sameEntries] using ⟨0, by simp⟩
  | cons x xs ih =>
    cases ys with
    | nil => simpa [sameEntries] using ⟨0, by simp⟩
    | cons y ys =>
      refine Iff.trans ?_ Nat.and_forall_add_one
      rw [sameEntries, Bool.and_eq_true, Bool.and_eq_true, ih]
      simp only [List.getElem?_cons_zero, List.getElem?_cons_succ, Option.map_some, alike_some]

/-- Members have equal ones among others when each of them does. -/
theorem sameMembers_iff (xs ys : Members Value) :
    sameMembers xs ys = true ↔ ∀ name x, (name, x) ∈ xs → Alike (some x) (ys.get? name) := by
  -- Each member is looked up among the others by its name.
  induction xs with
  | nil => simp [sameMembers]
  | cons member rest ih =>
    obtain ⟨held, value⟩ := member
    have first : sameMembers ((held, value) :: rest) ys = true ↔
        Alike (some value) (ys.get? held) ∧ sameMembers rest ys = true := by
      rw [sameMembers, Bool.and_eq_true]
      cases ys.get? held <;> simp
    rw [first, ih]
    constructor
    · rintro ⟨alike, others⟩ name x among
      rcases List.mem_cons.1 among with same | later
      · cases same
        exact alike
      · exact others name x later
    · intro each
      exact ⟨each held value (by simp), fun name x later => each name x (by simp [later])⟩

/-- Objects that name nothing twice are equal when they are alike under every name: as many members on
both sides leave none over on either. -/
theorem same_object_iff {xs ys : Members Value} (once : xs.names.Nodup) (onceToo : ys.names.Nodup) :
    (object xs).same (object ys) = true ↔ ∀ name, Alike (xs.get? name) (ys.get? name) := by
  rw [same, Bool.and_eq_true, beq_iff_eq, sameMembers_iff]
  constructor
  · rintro ⟨length, each⟩ name
    -- All names of the one are names of the other, so the two have the same names.
    have within : xs.names ⊆ ys.names := fun name named => by
      obtain ⟨x, held⟩ := Members.exists_of_mem_names named
      have alike := each name x held
      by_contra absent
      rw [Members.get?_of_not_mem absent] at alike
      exact not_alike_some_none alike
    have names : xs.names.Perm ys.names :=
      (List.subperm_of_subset once within).perm_of_length_le (by
        rw [Members.length_names, Members.length_names]
        omega)
    cases held : xs.get? name with
    | some x => exact each name x (Members.mem_of_get? held)
    | none =>
      have absent := (Members.get?_eq_none_iff xs name).1 held
      rw [names.mem_iff] at absent
      rw [Members.get?_of_not_mem absent]
      exact alike_none
  · -- Under every name both hold something or neither does, so there are as many of both.
    intro each
    constructor
    · have names := Members.perm_names_of_rel once onceToo each
      rw [← Members.length_names, ← Members.length_names, names.length_eq]
    · intro name x among
      exact Members.get?_of_mem once among ▸ each name

/-- What holds of every spot holds of every place and name of any sort. -/
theorem forall_spot {p : Spot → Prop} :
    (∀ spot, p spot) ↔ (∀ place, p (.item place)) ∧ (∀ name, p (.member name)) ∧
      (∀ place, p (.key place)) ∧ ∀ place, p (.entry place) := by
  -- There are four sorts of spots.
  constructor
  · intro all
    exact ⟨fun _ => all _, fun _ => all _, fun _ => all _, fun _ => all _⟩
  · rintro ⟨items, members, keys, entries⟩ spot
    cases spot with
    | item place => exact items place
    | member name => exact members name
    | key place => exact keys place
    | entry place => exact entries place

/-- Values that name nothing twice are equal when they look alike and are alike at every spot. -/
theorem same_iff (sound : a.WellFormed) (soundToo : b.WellFormed) :
    a.same b = true ↔ a.LooksLike b ∧ ∀ spot, Alike (a.part? spot) (b.part? spot) := by
  cases leaf : a.isLeaf with
  | true =>
    rw [same_iff_of_leaf leaf]
    refine ⟨fun looks => ⟨looks, fun spot => ?_⟩, And.left⟩
    rw [part?_of_leaf leaf, part?_of_leaf (looks.isLeaf_eq ▸ leaf)]
    exact alike_none
  | false =>
    rw [looksLike_iff, forall_spot]
    -- A container is compared with one of its own sort, and no other looks like it.
    cases a with
    | array xs | arguments xs | set xs =>
      cases b <;> simp [same, sameItems_iff, isNaN, face, part?]
    | map xs => cases b <;> simp [same, sameEntries_iff, forall_and, isNaN, face, part?]
    | object xs =>
      cases b with
      | object ys =>
        rw [same_object_iff ((wellFormed_object xs).1 sound).1 ((wellFormed_object ys).1 soundToo).1]
        simp [isNaN, face, part?]
      | _ => simp [same, face]
    | _ => cases leaf

/-- Two places that are related are empty both of them, or hold what is related. -/
theorem exists_of_rel {related : Value → Value → Prop} {old new : Option Value}
    (both : Option.Rel related old new) :
    old = none ∧ new = none ∨ ∃ x y, old = some x ∧ new = some y ∧ related x y := by
  -- Nothing is related to what is not there.
  cases both with
  | none => exact .inl ⟨rfl, rfl⟩
  | @some x y held => exact .inr ⟨x, y, rfl, rfl, held⟩

/-- Looking alike goes both ways. -/
theorem LooksLike.symm (looks : a.LooksLike b) : b.LooksLike a :=
  ⟨looks.isNumberToo, looks.isNumber, looks.face.symm⟩

/-- What looks like one of two values that look alike looks like the other. -/
theorem LooksLike.trans (looks : a.LooksLike b) (further : b.LooksLike c) : a.LooksLike c :=
  ⟨looks.isNumber, further.isNumberToo, looks.face.trans further.face⟩

/-- Equality by structure goes both ways. -/
theorem same_symm (sound : a.WellFormed) (soundToo : b.WellFormed) (equal : a.same b = true) :
    b.same a = true := by
  -- What stands at a spot is smaller, and turning the comparison round is known there.
  induction a using part_induction generalizing b with
  | step a ih =>
    obtain ⟨looks, each⟩ := (same_iff sound soundToo).1 equal
    refine (same_iff soundToo sound).2 ⟨looks.symm, fun spot => ?_⟩
    rcases exists_of_rel (each spot) with ⟨absent, absentToo⟩ | ⟨x, y, held, given, equal⟩
    · rw [absent, absentToo]
      exact alike_none
    · rw [held, given, alike_some]
      exact ih spot x held (wellFormed_part sound held) (wellFormed_part soundToo given) equal

/-- It makes no difference which of two values is compared with which. -/
theorem same_comm (sound : a.WellFormed) (soundToo : b.WellFormed) : a.same b = b.same a := by
  -- Symmetry holds in either direction.
  rw [Bool.eq_iff_iff]
  exact ⟨same_symm sound soundToo, same_symm soundToo sound⟩

/-- What equals one of two equal values equals the other. -/
theorem same_trans (sound : a.WellFormed) (soundToo : b.WellFormed) (soundLast : c.WellFormed)
    (equal : a.same b = true) (further : b.same c = true) : a.same c = true := by
  induction a using part_induction generalizing b c with
  | step a ih =>
    obtain ⟨looks, each⟩ := (same_iff sound soundToo).1 equal
    obtain ⟨looksOn, eachOn⟩ := (same_iff soundToo soundLast).1 further
    refine (same_iff sound soundLast).2 ⟨looks.trans looksOn, fun spot => ?_⟩
    have on := eachOn spot
    -- The spot is empty in all three values, or something stands at it in all of them.
    rcases exists_of_rel (each spot) with ⟨absent, absentToo⟩ | ⟨x, y, held, given, equal⟩
    · rw [absent]
      rwa [absentToo] at on
    · rw [given] at on
      rcases exists_of_rel on with ⟨missing, -⟩ | ⟨_, z, self, last, further⟩
      · cases missing
      · cases self
        rw [held, last, alike_some]
        exact ih spot x held (wellFormed_part sound held) (wellFormed_part soundToo given)
          (wellFormed_part soundLast last) equal further

/-- What is no number stands somewhere in a value: it is one, or one is among its numbers, or one stands
in what the value holds. -/
inductive HoldsNaN : Value → Prop where
  | itself {value : Value} (notNumber : value.isNaN = true) : HoldsNaN value
  | inside {value part : Value} {spot : Spot} (found : value.part? spot = some part)
      (held : HoldsNaN part) : HoldsNaN value

/-- A value equals itself unless it holds what is no number. -/
theorem same_self_iff (sound : a.WellFormed) : a.same a = true ↔ ¬ a.HoldsNaN := by
  -- A value looks like itself unless it is no number, and its parts are compared with themselves.
  induction a using part_induction with
  | step a ih =>
    rw [same_iff sound sound]
    constructor
    · rintro ⟨looks, each⟩ holds
      cases holds with
      | itself notNumber => exact Bool.false_ne_true (looks.isNumber ▸ notNumber)
      | @inside _ part spot found held =>
        have equal := each spot
        rw [found, alike_some] at equal
        exact (ih spot part found (wellFormed_part sound found)).1 equal held
    · intro free
      have isNumber : a.isNaN = false := Bool.eq_false_iff.2 fun notNumber => free (.itself notNumber)
      refine ⟨⟨isNumber, isNumber, rfl⟩, fun spot => ?_⟩
      cases found : a.part? spot with
      | none => exact alike_none
      | some part =>
        rw [alike_some, ih spot part found (wellFormed_part sound found)]
        exact fun held => free (.inside found held)

/-- Values that are equal by reference are equal by structure, whatever names they repeat. -/
theorem same_of_strictlyEquals (equal : a.strictlyEquals b = true) : a.same b = true := by
  -- By reference only primitives, functions and host objects are equal to anything.
  unfold strictlyEquals at equal
  split at equal <;> first | exact equal | cases equal

/-- A list includes what is equal by reference to one of its elements. -/
theorem includes_of_strictlyEquals (equal : a.strictlyEquals b = true) : a.includes b = true := by
  -- Two numbers may be equal in another way besides, and all other values are compared alike.
  unfold includes
  split
  · rw [strictlyEquals] at equal
    rw [equal, Bool.or_true]
  · exact equal

end Value

end Conform
