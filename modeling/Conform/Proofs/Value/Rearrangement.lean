import Conform.Proofs.Traversal
import Conform.Proofs.Value.Equality

/-! A value whose objects have their members put in another order, at whatever depth they stand, is equal
by structure to what it was equal to before. -/

namespace Conform

/-- What stands at two related places is related once it is looked at in the same way. -/
theorem rel_map {α β : Type} {related : β → β → Prop} {image : α → β} {old new : Option α}
    (both : Option.Rel (fun x y => related (image x) (image y)) old new) :
    Option.Rel related (old.map image) (new.map image) := by
  -- Something stands at both places or at neither.
  cases both with
  | none => exact .none
  | some held => exact .some held

namespace Value

/-- A value and what it may be rearranged to: objects keep their names, in whatever order, and all other
containers keep what they hold at its place, while all that stands in them may be rearranged too. -/
inductive Rearranged : Value → Value → Prop where
  | same (value : Value) : Rearranged value value
  | object {members others : Members Value} (names : members.names.Perm others.names)
      (each : ∀ name old new, members.get? name = some old → others.get? name = some new →
        Rearranged old new) :
      Rearranged (.object members) (.object others)
  | array {items others : List Value} (length : others.length = items.length)
      (each : ∀ (place : Nat) old new, items[place]? = some old → others[place]? = some new →
        Rearranged old new) :
      Rearranged (.array items) (.array others)
  | arguments {items others : List Value} (length : others.length = items.length)
      (each : ∀ (place : Nat) old new, items[place]? = some old → others[place]? = some new →
        Rearranged old new) :
      Rearranged (.arguments items) (.arguments others)
  -- The elements of a set count by their order, so they stay in place.
  | set {items others : List Value} (length : others.length = items.length)
      (each : ∀ (place : Nat) old new, items[place]? = some old → others[place]? = some new →
        Rearranged old new) :
      Rearranged (.set items) (.set others)
  | map {entries others : List (Value × Value)} (length : others.length = entries.length)
      (keys : ∀ (place : Nat) old new, entries[place]? = some old → others[place]? = some new →
        Rearranged old.1 new.1)
      (values : ∀ (place : Nat) old new, entries[place]? = some old → others[place]? = some new →
        Rearranged old.2 new.2) :
      Rearranged (.map entries) (.map others)

namespace Rearranged

variable {value other c : Value}

/-- An object is rearranged to the one that has its members in another order. -/
theorem of_perm {members others : Members Value} (distinct : members.names.Nodup)
    (order : members.Perm others) : Rearranged (.object members) (.object others) := by
  have names : members.names.Perm others.names := by
    rw [Members.names_eq_map, Members.names_eq_map]
    exact order.map Prod.fst
  refine .object names fun name old new held given => ?_
  -- No name occurs twice, so the member of that name is the same one on both sides.
  have moved := order.mem_iff.1 (Members.mem_of_get? held)
  rw [Members.get?_of_mem (names.nodup_iff.1 distinct) moved] at given
  cases given
  exact .same old

/-- What is rearranged shows the same of itself. -/
theorem face_eq (rearranged : value.Rearranged other) : value.face = other.face := by
  cases rearranged <;> rfl

/-- What is rearranged is a number, or none, as it was before. -/
theorem isNaN_eq (rearranged : value.Rearranged other) : value.isNaN = other.isNaN := by
  cases rearranged <;> rfl

/-- Whatever stands at a spot of a value stands there, rearranged, in what the value is rearranged to. -/
theorem rel_part? (rearranged : value.Rearranged other) (spot : Spot) :
    Option.Rel Rearranged (value.part? spot) (other.part? spot) := by
  -- Each sort of container is looked into in its own way, and elsewhere there is nothing.
  cases rearranged with
  | same =>
    cases value.part? spot with
    | none => exact .none
    | some part => exact .some (.same part)
  | object names each =>
    cases spot with
    | member name => exact Members.rel_get? names each name
    | _ => exact .none
  | array length each | arguments length each | set length each =>
    cases spot with
    | item place => exact rel_getElem? length each place
    | _ => exact .none
  | map length keys values =>
    cases spot with
    | key place => exact rel_map (rel_getElem? length keys place)
    | entry place => exact rel_map (rel_getElem? length values place)
    | _ => exact .none

/-- Rearranging keeps a value well-formed. -/
theorem wellFormed (rearranged : value.Rearranged other) (sound : value.WellFormed) :
    other.WellFormed := by
  induction value using part_induction generalizing other with
  | step value ih =>
    refine wellFormed_of_parts (fun others shape => ?_) fun spot new given => ?_
    · -- The names are those the object had before.
      subst shape
      cases rearranged with
      | same => exact ((wellFormed_object others).1 sound).1
      | @object members _ names => exact names.nodup_iff.1 ((wellFormed_object members).1 sound).1
    · rcases exists_of_rel (rearranged.rel_part? spot) with ⟨-, absent⟩ | ⟨old, _, held, last, inside⟩
      · rw [given] at absent
        cases absent
      · rw [given] at last
        cases last
        exact ih spot old held inside (wellFormed_part sound held)

/-- What is rearranged is equal to what it was equal to before. -/
theorem same_eq (rearranged : value.Rearranged other) (sound : value.WellFormed)
    (soundToo : c.WellFormed) : other.same c = value.same c := by
  -- Both look alike, and what stands in them is rearranged, so the induction is on the parts.
  rw [Bool.eq_iff_iff]
  induction value using part_induction generalizing other c with
  | step value ih =>
    rw [Value.same_iff sound soundToo, Value.same_iff (rearranged.wellFormed sound) soundToo,
      looksLike_iff, looksLike_iff, rearranged.face_eq, rearranged.isNaN_eq]
    refine and_congr_right fun _ => forall_congr' fun spot => ?_
    rcases exists_of_rel (rearranged.rel_part? spot) with
      ⟨absent, absentToo⟩ | ⟨old, new, held, given, inside⟩
    · rw [absent, absentToo]
    · rw [held, given]
      cases last : c.part? spot with
      | none => simp
      | some z =>
        rw [alike_some, alike_some,
          ih spot old held inside (wellFormed_part sound held) (wellFormed_part soundToo last)]

end Rearranged

/-- Equality by structure is symmetric and transitive. It does not see how the members of objects are
ordered, in the value itself or anywhere inside. A value equals itself exactly if it holds nothing that
is no number. Values that are equal by reference are equal by structure too, and a list that holds the
one includes the other. -/
theorem same_partial_equivalence {a b c : Value} (sound : a.WellFormed) (soundToo : b.WellFormed)
    (soundLast : c.WellFormed) :
    (a.same b = true → b.same a = true) ∧
      (a.same b = true → b.same c = true → a.same c = true) ∧
      (∀ other, a.Rearranged other → other.same b = a.same b ∧ b.same other = b.same a) ∧
      (a.same a = true ↔ ¬ a.HoldsNaN) ∧
      (a.strictlyEquals b = true → a.same b = true ∧ a.includes b = true) := by
  refine ⟨same_symm sound soundToo, same_trans sound soundToo soundLast, ?_, same_self_iff sound, ?_⟩
  · -- On the right the values change places first.
    intro other rearranged
    have soundOther := rearranged.wellFormed sound
    refine ⟨rearranged.same_eq sound soundToo, ?_⟩
    rw [same_comm soundToo soundOther, same_comm soundToo sound, rearranged.same_eq sound soundToo]
  · intro equal
    exact ⟨same_of_strictlyEquals equal, includes_of_strictlyEquals equal⟩

/-- A map that leads from a text to a set with an object in it. -/
def drawer (members : Members Value) : Value :=
  .map [(.string "coats", .set [.object members])]

/-- A drawer is well-formed when its object is. -/
theorem wellFormed_drawer {members : Members Value} (sound : (object members).WellFormed) :
    (drawer members).WellFormed :=
  ⟨trivial, ⟨sound, trivial⟩, trivial⟩

/-- What stands at one place of two rows of a single element each are these elements. -/
theorem eq_of_singletons {α : Type} {x y old new : α} {place : Nat} (held : [x][place]? = some old)
    (given : [y][place]? = some new) : x = old ∧ y = new := by
  -- A row of one element has one place.
  cases place with
  | zero => exact ⟨Option.some.inj held, Option.some.inj given⟩
  | succ place => cases held

/-- A drawer is rearranged when its object is. -/
theorem rearranged_drawer {members others : Members Value}
    (inside : (object members).Rearranged (object others)) :
    (drawer members).Rearranged (drawer others) := by
  -- A drawer is a map to a set, with a single element in either.
  refine .map rfl (fun place old new held given => ?_) fun place old new held given => ?_
  · obtain ⟨rfl, rfl⟩ := eq_of_singletons held given
    exact .same _
  · obtain ⟨rfl, rfl⟩ := eq_of_singletons held given
    refine .set rfl fun place old new held given => ?_
    obtain ⟨rfl, rfl⟩ := eq_of_singletons held given
    exact inside

/-- Two drawers that list the members of their object in different order are equal, either way round. One
with what is no number in it does not equal itself. -/
theorem same_partial_equivalence_drawers :
    (drawer [("size", .string "medium"), ("lent", .null)]).same
        (drawer [("lent", .null), ("size", .string "medium")]) = true ∧
      (drawer [("lent", .null), ("size", .string "medium")]).same
        (drawer [("size", .string "medium"), ("lent", .null)]) = true ∧
      ¬ (drawer [("size", .string "medium"), ("lent", .null)]).HoldsNaN ∧
      (drawer [("size", .number .nan)]).HoldsNaN ∧
      (Value.string "medium").includes (.string "medium") = true := by
  -- The drawers name nothing twice, and the one is the other rearranged.
  have distinct : (Members.names [("size", Value.string "medium"), ("lent", .null)]).Nodup := by
    simp [Members.names]
  have sound : (drawer [("size", .string "medium"), ("lent", .null)]).WellFormed :=
    wellFormed_drawer ⟨distinct, trivial, trivial, trivial⟩
  have soundNaN : (drawer [("size", .number .nan)]).WellFormed :=
    wellFormed_drawer ⟨by simp [Members.names], trivial, trivial⟩
  have rearranged : (drawer [("size", .string "medium"), ("lent", .null)]).Rearranged
      (drawer [("lent", .null), ("size", .string "medium")]) :=
    rearranged_drawer (.of_perm distinct (.swap _ _ _))
  obtain ⟨-, -, ordered, itself, -⟩ := same_partial_equivalence sound sound sound
  obtain ⟨shuffled, shuffledToo⟩ := ordered _ rearranged
  have same : (drawer [("size", .string "medium"), ("lent", .null)]).same
      (drawer [("size", .string "medium"), ("lent", .null)]) = true := rfl
  refine ⟨shuffledToo.trans same, shuffled.trans same, itself.1 same, ?_, ?_⟩
  · -- Without what is no number the drawer would equal itself.
    by_contra free
    exact Bool.false_ne_true ((same_partial_equivalence soundNaN soundNaN soundNaN).2.2.2.1.2 free)
  · have text : (Value.string "medium").WellFormed := trivial
    exact ((same_partial_equivalence text text text).2.2.2.2 rfl).2

end Value

end Conform
