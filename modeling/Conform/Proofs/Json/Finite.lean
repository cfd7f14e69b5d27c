import Conform.Json.Reader
import Conform.Proofs.Members
import Conform.Proofs.Number.Exactness

/-! Documents that have been read hold finite numbers only, and once they are settled their names are
distinct. -/

namespace Conform

namespace Double

/-- Moving the decimal point of a finite number gives a finite number. -/
theorem isFinite_of_scaled? {steps : Nat} {x moved : Double} {exponent : Int}
    (scaled : scaled? steps x exponent = some moved) : moved.isFinite = true := by
  -- A step ends with zero or with a number that was found finite, or goes on with a smaller one.
  induction steps generalizing x exponent with
  | zero =>
    cases scaled
    decide +kernel
  | succ steps ih =>
    unfold scaled? at scaled
    split at scaled
    · -- What has become too large is refused.
      simp only [Option.ite_none_right_eq_some, Option.some.injEq] at scaled
      obtain ⟨finite, rfl⟩ := scaled
      exact finite
    · split at scaled
      · rename_i zero
        cases scaled
        have pattern : moved.pattern = 0 := by simpa [isZero] using zero
        rw [isFinite, pattern]
        decide
      · split at scaled
        · cases scaled
        · exact ih scaled

/-- A number that is read from a significand and an exponent is finite. -/
theorem isFinite_of_ofSignificand? {negative : Bool} {significand : Nat} {exponent : Int}
    {x : Double} (made : ofSignificand? negative significand exponent = some x) :
    x.isFinite = true := by
  -- The sign is put on a number that has been scaled without overflow.
  unfold ofSignificand? at made
  obtain ⟨unsigned, scaled, rfl⟩ := Option.map_eq_some_iff.1 made
  exact isFinite_ofPattern (by simpa [isFinite] using isFinite_of_scaled? scaled)

end Double

namespace Json

/-- Documents whose integers fit words, whose other numbers are finite, and whose objects have names of
a kind. -/
inductive Regular (kind : List String → Prop) : Json → Prop
  | null : Regular kind null
  | bool (truth : Bool) : Regular kind (bool truth)
  | integer {n : Int} (fits : n.natAbs < wordCount) : Regular kind (integer n)
  | float {n : Double} (finite : n.isFinite = true) : Regular kind (float n)
  | string (text : String) : Regular kind (string text)
  | array {items : List Json} (each : ∀ item ∈ items, Regular kind item) :
      Regular kind (array items)
  -- The names are judged together, since being distinct is no matter of one alone.
  | object {members : Members Json} (named : kind members.names)
      (each : ∀ name item, (name, item) ∈ members → Regular kind item) :
      Regular kind (object members)

/-- The integer digits that are gathered fit a word. -/
theorem gatherInteger_lt (digits : List Char) : (gatherInteger digits).1 < wordCount := by
  unfold gatherInteger
  -- Every digit is taken in only if the result still fits.
  refine List.foldlRecOn (motive := fun gathered : Nat × Nat => gathered.1 < wordCount) digits _
    (by decide) fun gathered small c _ => ?_
  dsimp only
  split
  · rename_i room
    exact room.2
  · exact small

/-- Everything that a reader reads has a property. -/
def Yields {α : Type} (read : Reader α) (good : α → Prop) : Prop :=
  ∀ text result rest, read text = some (result, rest) → good result

variable {kind : List String → Prop}

/-- An integer that is written out is read as an integer of a word or as a finite number. -/
theorem regular_of_ofDigits? {negative : Bool} {significand dropped : Nat} {document : Json}
    (fits : significand < wordCount)
    (made : ofDigits? negative significand dropped = some document) : document.Regular kind := by
  unfold ofDigits? at made
  split at made
  · -- Digits that did not fit leave a number that was scaled up.
    obtain ⟨x, finite, rfl⟩ := Option.map_eq_some_iff.1 made
    exact .float (Double.isFinite_of_ofSignificand? finite)
  · split at made
    · cases made
      exact .integer (by simpa using fits)
    · -- A negative integer that fits is exact, and any other becomes the nearest number.
      split at made
      · cases made
        have finite : (Double.ofInt significand).isFinite = true :=
          Double.isFinite_ofInt (by simpa using fits)
        exact .float (Double.isFinite_ofPattern (by simpa [Double.isFinite] using finite))
      · cases made
        exact .integer (by simpa using fits)

/-- A number with an exponent is read as a finite number. -/
theorem yields_scaled (negative : Bool) (significand dropped : Nat) :
    Yields (readUnsigned.scaled negative significand dropped) (Regular kind) := by
  -- Only numbers that do not overflow are given out.
  intro text document rest read
  simp only [readUnsigned.scaled, Option.bind_eq_bind, Option.bind_eq_some_iff] at read
  obtain ⟨⟨exponent, _⟩, -, x, made, same⟩ := read
  cases same
  exact .float (Double.isFinite_of_ofSignificand? made)

/-- A number is read as a regular document. -/
theorem yields_readUnsigned (negative : Bool) : Yields (readUnsigned negative) (Regular kind) := by
  intro text document rest read
  unfold readUnsigned at read
  -- Whether a zero stands alone or not, what follows is read in one way.
  split at read
  all_goals
    simp only [Option.bind_eq_bind, Option.ite_none_left_eq_some] at read
    obtain ⟨-, read⟩ := read
    split at read
    · -- A fraction makes a number of its own.
      simp only [Option.ite_none_left_eq_some, Option.bind_eq_some_iff] at read
      obtain ⟨-, ⟨exponent, _⟩, -, x, made, same⟩ := read
      cases same
      exact .float (Double.isFinite_of_ofSignificand? made)
    · exact yields_scaled _ _ _ _ _ _ read
    · exact yields_scaled _ _ _ _ _ _ read
    · obtain ⟨made, digits, same⟩ := Option.bind_eq_some_iff.1 read
      cases same
      exact regular_of_ofDigits? (gatherInteger_lt _) digits

/-- A document that holds no other is regular. -/
theorem yields_readScalar : Yields readScalar (Regular kind) := by
  intro text document rest read
  unfold readScalar at read
  -- Words and texts hold no numbers, and what is none of them is read as a number.
  split at read
  · obtain ⟨later, -, same⟩ := Option.map_eq_some_iff.1 read
    cases same
    exact .null
  · obtain ⟨later, -, same⟩ := Option.map_eq_some_iff.1 read
    cases same
    exact .bool true
  · obtain ⟨later, -, same⟩ := Option.map_eq_some_iff.1 read
    cases same
    exact .bool false
  · obtain ⟨⟨quoted, later⟩, -, same⟩ := Option.map_eq_some_iff.1 read
    cases same
    exact .string quoted
  · exact yields_readUnsigned true _ _ _ read
  · exact yields_readUnsigned false _ _ _ read

variable {α : Type} {part : Reader α} {good : α → Prop} {close : Char}

/-- Parts between separators have the property of what reads them. -/
theorem Yields.readParts (yields : Yields part good) (steps : Nat) :
    Yields (readParts part close steps) fun parts => ∀ item ∈ parts, good item := by
  induction steps with
  | zero =>
    intro text parts rest read
    cases read
  | succ steps ih =>
    intro text parts rest read
    -- After the first part there is a comma and more of them, or the closing character.
    unfold Json.readParts at read
    simp only [Option.bind_eq_bind, Option.bind_eq_some_iff] at read
    obtain ⟨⟨first, later⟩, readFirst, continued⟩ := read
    have goodFirst := yields _ _ _ readFirst
    split at continued
    · simp only [Option.bind_eq_some_iff] at continued
      obtain ⟨⟨others, _⟩, readOthers, same⟩ := continued
      cases same
      exact List.forall_mem_cons.2 ⟨goodFirst, ih _ _ _ readOthers⟩
    · split at continued
      · cases continued
        simpa using goodFirst
      · cases continued
    · cases continued

/-- Parts of a group have the property of what reads them. -/
theorem Yields.readGroup (yields : Yields part good) :
    Yields (readGroup part close) fun parts => ∀ item ∈ parts, good item := by
  intro text parts rest read
  unfold Json.readGroup at read
  split at read
  · split at read
    · -- Nothing stands in an empty group.
      cases read
      simp
    · exact yields.readParts _ _ _ _ read
  · cases read

/-- The value of a member has the property of what reads it. -/
theorem Yields.readMember {value : Reader Json} {good : Json → Prop} (yields : Yields value good) :
    Yields (readMember value) fun member => good member.2 := by
  -- A member is its name, a colon and whatever the reader of values gives out.
  intro text member rest read
  unfold Json.readMember at read
  simp only [Option.bind_eq_bind, Option.bind_eq_some_iff] at read
  obtain ⟨_, -, ⟨name, _⟩, -, _, -, ⟨document, _⟩, readValue, same⟩ := read
  cases same
  exact yields _ _ _ readValue

/-- A document is regular as it is read, whatever names it has. -/
theorem yields_readNested (depth : Nat) : Yields (readNested depth) (Regular fun _ => True) := by
  -- A scalar is read at every depth, and a group only where there is depth left.
  induction depth with
  | zero =>
    intro text document rest read
    unfold readNested at read
    split at read
    · cases read
    · cases read
    · rename_i same
      cases same
    · rename_i same
      cases same
    · exact yields_readScalar _ _ _ read
  | succ depth ih =>
    intro text document rest read
    unfold readNested at read
    -- Whatever a group holds has been read one step less deep.
    split at read
    · cases read
    · cases read
    · rename_i same
      cases same
      simp only [Option.bind_eq_bind, Option.bind_eq_some_iff] at read
      obtain ⟨⟨items, _⟩, readItems, same⟩ := read
      cases same
      exact .array (ih.readGroup _ _ _ readItems)
    · rename_i same
      cases same
      simp only [Option.bind_eq_bind, Option.bind_eq_some_iff] at read
      obtain ⟨⟨members, _⟩, readMembers, same⟩ := read
      cases same
      exact .object trivial fun name item among =>
        ih.readMember.readGroup _ _ _ readMembers (name, item) among
    · exact yields_readScalar _ _ _ read

/-- Elements are settled one by one. -/
theorem settleItems_eq_map (items : List Json) : settleItems items = items.map settle := by
  -- The elements are gone through from the front.
  induction items with
  | nil => rfl
  | cons item rest ih => rw [settleItems, ih, List.map_cons]

/-- Members are settled one by one. -/
theorem settleMembers_eq_map (members : List (String × Json)) :
    settleMembers members = members.map fun member => (member.1, member.2.settle) := by
  -- The members are gone through from the front.
  induction members with
  | nil => rfl
  | cons member rest ih =>
    obtain ⟨name, item⟩ := member
    rw [settleMembers, ih, List.map_cons]

/-- Members that are put in one after another have distinct names, and come from the sequence. -/
theorem Regular.ofPairs {pairs : List (String × Json)}
    (each : ∀ name item, (name, item) ∈ pairs → Regular List.Nodup item) :
    Regular List.Nodup (Json.object (Members.ofPairs pairs)) := by
  -- Insertion keeps names distinct, and holds nothing that has not been put in.
  refine .object (Members.nodup_ofPairs pairs) fun name item held => ?_
  rcases Members.mem_insertAll held with nothing | among
  · cases nothing
  · exact each name item among

/-- Settling makes the names of every object distinct. -/
theorem Regular.settle {document : Json} (regular : document.Regular kind) :
    document.settle.Regular List.Nodup := by
  -- Only members are put together anew; everything else is settled where it stands.
  induction regular with
  | null => exact .null
  | bool truth => exact .bool truth
  | integer fits => exact .integer fits
  | float finite => exact .float finite
  | string text => exact .string text
  | array each ih =>
    rw [Json.settle, settleItems_eq_map]
    refine .array fun settled among => ?_
    obtain ⟨item, held, rfl⟩ := List.mem_map.1 among
    exact ih item held
  | object named each ih =>
    rw [Json.settle, settleMembers_eq_map]
    refine .ofPairs fun name settled among => ?_
    obtain ⟨⟨_, item⟩, held, same⟩ := List.mem_map.1 among
    cases same
    exact ih _ item held

/-- A document that a text writes holds finite numbers under distinct names. -/
theorem regular_of_read? {text : String} {document : Json} (read : read? text = some document) :
    document.Regular List.Nodup := by
  -- What has been read is settled in the end, and that makes the names distinct.
  unfold read? readRaw? at read
  simp only [Option.bind_eq_bind, Option.map_eq_some_iff, Option.bind_eq_some_iff] at read
  obtain ⟨raw, ⟨⟨_, rest⟩, nested, ended⟩, rfl⟩ := read
  simp only [Option.ite_none_right_eq_some, Option.some.injEq] at ended
  obtain ⟨-, rfl⟩ := ended
  exact (yields_readNested _ _ _ _ nested).settle

end Json

end Conform
