import Mathlib.Logic.Relation
import Conform.Proofs.Value.Tags

/-! Host objects are classified by one normal form of their class tags, in which neither blanks nor
capitals are left. -/

namespace Conform

/-- How a host object comes about: as a plain instance of a class, under a class tag of its own, or as a
generator. -/
inductive HostObject.Made : HostObject → Prop
  | plain (payload : String) (id : Nat) : Made (plain payload id)
  | tagged (classTag payload : String) (id : Nat) : Made (tagged classTag payload id)
  | ofGenerator (payload : String) (id : Nat) : Made (ofGenerator payload id)

/-- A class tag is respelt when a blank is put in anywhere, or when one of the capitals from A to Z is
made small. -/
inductive Respells : String → String → Prop
  | blank (front back : List Char) {c : Char} (blank : isBlank c = true) :
    Respells (.ofList (front ++ back)) (.ofList (front ++ c :: back))
  -- In other alphabets a small form may take more than one letter, so they are left alone.
  | capital (front back : List Char) {c : Char} (capital : c.isUpper = true) :
    Respells (.ofList (front ++ c :: back)) (.ofList (front ++ c.toLower :: back))

/-- A capital and its small letter are no blanks, and have the same lower case. -/
theorem lowercase_of_capital {c : Char} (capital : c.isUpper = true) :
    isBlank c = false ∧ isBlank c.toLower = false ∧ lowercase c.toLower = lowercase c := by
  -- The tables are asked about each of the twenty-six.
  have each : ∀ place < 26, isBlank (.ofNat (65 + place)) = false ∧
      isBlank (Char.ofNat (65 + place)).toLower = false ∧
      lowercase (Char.ofNat (65 + place)).toLower = lowercase (.ofNat (65 + place)) := by
    decide +kernel
  have within : 'A'.val ≤ c.val ∧ c.val ≤ 'Z'.val := of_decide_eq_true capital
  obtain ⟨low, high⟩ : 65 ≤ c.toNat ∧ c.toNat ≤ 90 := by
    rwa [UInt32.le_iff_toNat_le, UInt32.le_iff_toNat_le, Char.toNat_val] at within
  obtain ⟨place, code⟩ := Nat.exists_eq_add_of_le low
  have letter := each place (by omega)
  rwa [← code, Char.ofNat_toNat] at letter

namespace TypeTag

variable {classTag other : String}

/-- Respelling leaves the reduced class tag as it is. -/
theorem reduce_of_respells (respells : Respells classTag other) :
    reduce classTag = reduce other := by
  -- A blank is dropped, and a capital becomes small, whatever stands around it.
  cases respells with
  | blank front back blank => simp [reduce, blank]
  | capital front back capital =>
    obtain ⟨solid, solidToo, same⟩ := lowercase_of_capital capital
    simp [reduce, solid, solidToo, same]

/-- Class tags that come from one another by respelling, to and fro, are reduced to one. -/
theorem reduce_of_eqvGen (alike : Relation.EqvGen Respells classTag other) :
    reduce classTag = reduce other := by
  -- What one respelling leaves as it is, any number of them do.
  induction alike with
  | rel _ _ respells => exact reduce_of_respells respells
  | refl _ => rfl
  | symm _ _ _ ih => exact ih.symm
  | trans _ _ _ _ _ first second => exact first.trans second

/-- Class tags lead to one tag exactly if they are reduced to one. -/
theorem ofClassTag_eq_iff : ofClassTag classTag = ofClassTag other ↔ reduce classTag = reduce other := by
  constructor
  · intro same
    -- The name of a tag that has been read off a class tag is the reduced class tag.
    rw [← name_ofName (reduce classTag), ← name_ofName (reduce other)]
    exact congrArg name same
  · exact congrArg ofName

end TypeTag

namespace HostObject

variable {owned : HostObject}

/-- However a host object has been made, its tag is the one read off its class tag. -/
theorem Made.tag_eq (made : owned.Made) : owned.tag = .ofClassTag owned.classTag := by
  rcases owned.tag_eq_or_generator with same | ⟨generates, tag⟩
  · exact same
  · cases made with
    | plain | tagged => cases generates
    | ofGenerator payload id =>
      -- Generators are made under a class tag that is reduced to the name of their category.
      rw [tag]
      show TypeTag.generator = .ofClassTag "Generator"
      decide

end HostObject

/-- One normal form classifies host objects. However a host object has been made, it falls under the
name that is left of its class tag once blanks are dropped and every character is put in lower case,
whichever way its tag has been found. So two host objects are classified alike exactly if that leaves
one name of both their class tags, which no number of blanks put in or left out anywhere and no letter
made small or capital can change. -/
theorem host_classes_normal_form :
    (∀ owned : HostObject, owned.Made →
      (Value.host owned).tag = .ofName (String.ofList
        ((owned.classTag.toList.filter fun c => !isBlank c).flatMap lowercase))) ∧
    (∀ owned other : HostObject, owned.Made → other.Made →
      ((Value.host owned).tag = (Value.host other).tag ↔
        TypeTag.reduce owned.classTag = TypeTag.reduce other.classTag)) ∧
    ∀ classTag otherTag payload otherPayload id otherId,
      Relation.EqvGen Respells classTag otherTag →
      (Value.host (.tagged classTag payload id)).tag =
        (Value.host (.tagged otherTag otherPayload otherId)).tag := by
  -- The tag of a value that holds a host object is the tag of that object.
  have read : ∀ owned : HostObject, owned.Made →
      (Value.host owned).tag = .ofClassTag owned.classTag := fun owned made => made.tag_eq
  refine ⟨read, ?_, ?_⟩
  · intro owned other made madeToo
    rw [read owned made, read other madeToo, TypeTag.ofClassTag_eq_iff]
  · intro classTag otherTag payload otherPayload id otherId alike
    rw [read _ (.tagged classTag payload id), read _ (.tagged otherTag otherPayload otherId)]
    exact TypeTag.ofClassTag_eq_iff.2 (TypeTag.reduce_of_eqvGen alike)

/-- A weak map is one with blanks inside its class tag and with a capital made small, a generator is
what its class tag says, and of a dotted capital two characters are left. -/
theorem host_classes_normal_form_guises :
    (Value.host (.tagged "weak\u2003 Map" "()" 0)).tag = .weakMap ∧
      (Value.host (.ofGenerator "()" 1)).tag = .generator ∧
      (Value.host (.tagged "\u0130 Tem" "()" 2)).tag = .other "i\u0307tem" := by
  -- The spelling is changed in three steps, two of which put in a blank.
  have spelt : Relation.EqvGen Respells "WeakMap" "weak\u2003 Map" := by
    refine .trans _ "weakMap" _ (.rel _ _ ?_) (.trans _ "weak Map" _ (.rel _ _ ?_) (.rel _ _ ?_))
    · exact .capital [] "eakMap".toList (c := 'W') (by decide)
    · exact .blank "weak".toList "Map".toList (c := ' ') (by decide)
    · exact .blank "weak".toList " Map".toList (c := '\u2003') (by decide)
  have ⟨normal, _, respelt⟩ := host_classes_normal_form
  refine ⟨?_, ?_, ?_⟩
  · exact (respelt _ _ "()" "()" 1 0 spelt).symm.trans (normal _ (.tagged "WeakMap" "()" 1))
  · exact normal _ (.ofGenerator "()" 1)
  · exact normal _ (.tagged "\u0130 Tem" "()" 2)

end Conform
