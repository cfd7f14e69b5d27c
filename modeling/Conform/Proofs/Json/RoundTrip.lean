import Conform.Proofs.Json.Finite
import Conform.Proofs.Json.Scalar
import Conform.Proofs.Members

/-! Documents without fractions are read back from their compact text. -/

namespace Conform.Json

/-- Documents that hold integers of sixty-four bits, and no other numbers, and whose members have
distinct names; at most `depth` arrays and objects lie inside one another. -/
inductive Writable : Nat → Json → Prop
  | null {depth : Nat} : Writable depth null
  | bool {depth : Nat} (truth : Bool) : Writable depth (bool truth)
  -- These integers are read back as such; what lies beyond becomes another kind of number.
  | integer {depth : Nat} {n : Int} (low : -(wordCount : Int) ≤ 2 * n) (high : n < wordCount) :
      Writable depth (integer n)
  | string {depth : Nat} (text : String) : Writable depth (string text)
  -- A scalar may stand at any depth, and only a container takes one level of it.
  | array {depth : Nat} {items : List Json} (each : ∀ item ∈ items, Writable depth item) :
      Writable (depth + 1) (array items)
  | object {depth : Nat} {members : Members Json} (distinct : members.names.Nodup)
      (each : ∀ name item, (name, item) ∈ members → Writable depth item) :
      Writable (depth + 1) (object members)

variable {rest : List Char}

/-- A text that begins a part of a group: neither with a space nor with the end of the group. -/
def Begins (close : Char) : List Char → Prop
  | [] => False
  | c :: _ => isSpace c = false ∧ c ≠ close

/-- No space is skipped in front of a part. -/
theorem skipSpace_of_begins {close : Char} {text : List Char} (begins : Begins close text) :
    skipSpace text = text := by
  -- A part begins with a character that is no space.
  cases text with
  | nil => exact begins.elim
  | cons c later => simp [skipSpace, begins.1]

/-- What is written after a part does not change how it begins. -/
theorem Begins.append {close : Char} {text : List Char} (begins : Begins close text)
    (later : List Char) : Begins close (text ++ later) := by
  -- A part is not empty, so the first character is its own.
  cases text with
  | nil => exact begins.elim
  | cons c others => exact begins

/-- Blanks are characters that are skipped between parts. -/
def Blank (text : List Char) : Prop :=
  ∀ c ∈ text, isSpace c = true

/-- Blanks are skipped along with what is skipped behind them. -/
theorem Blank.skipSpace_append {gap : List Char} (blank : Blank gap) (text : List Char) :
    skipSpace (gap ++ text) = skipSpace text :=
  List.dropWhile_append_of_pos blank

/-- Blanks may follow a document, in front of what may follow it. -/
theorem Blank.ends {gap later : List Char} (blank : Blank gap) (ends : Ends later) :
    Ends (gap ++ later) := by
  cases gap with
  | nil => exact ends
  | cons c others =>
    -- The first blank is one of the four spaces, and all of them end a document.
    have space : isSpace c = true := blank c List.mem_cons_self
    simp only [isSpace, Bool.or_eq_true, decide_eq_true_eq] at space
    rw [List.cons_append, Ends]
    tauto

section Groups

variable {α : Type} {write : α → List Char} {part : Reader α} {close : Char} {gap last : List Char}

/-- Further parts, each after a comma and a gap, and the end of their group after a last gap. -/
def further (write : α → List Char) (gap last : List Char) (close : Char) (others : List α) :
    List Char :=
  (others.flatMap fun item => ',' :: (gap ++ write item)) ++ (last ++ [close])

/-- Further parts are as many as they have commas, at least. -/
theorem length_lt_further (others : List α) :
    others.length < (further write gap last close others).length := by
  -- Each part has a comma in front of it, and there is the end of the group besides.
  induction others with
  | nil =>
    simp only [further, List.flatMap_nil, List.nil_append, List.length_append, List.length_cons]
    omega
  | cons item later ih =>
    simp only [further, List.flatMap_cons, List.length_cons, List.length_append] at ih ⊢
    omega

/-- A part is read back from what is written for it, in front of whatever may follow. -/
structure ReadsBack (write : α → List Char) (part : Reader α) (close : Char) (item : α) : Prop where
  begins : Begins close (write item)
  reads : ∀ rest, Ends rest → part (write item ++ rest) = some (item, rest)

/-- The end of a group is no space, and may follow its last part. -/
theorem ends_close (closes : close = ']' ∨ close = '\x7d') (rest : List Char) :
    Ends (close :: rest) ∧ skipSpace (close :: rest) = close :: rest := by
  rcases closes with rfl | rfl <;> simp [Ends, skipSpace, isSpace]

/-- Parts are read back one after another, up to the end of their group. -/
theorem readParts_further (closes : close = ']' ∨ close = '\x7d') (blank : Blank gap)
    (blankToo : Blank last) {first : α} {others : List α}
    (each : ∀ item ∈ first :: others, ReadsBack write part close item) {steps : Nat}
    (enough : others.length < steps) :
    readParts part close steps
        (gap ++ (write first ++ (further write gap last close others ++ rest))) =
      some (first :: others, rest) := by
  -- Each step skips a gap and reads a part, and what follows is a comma or the end of the group.
  induction others generalizing first steps with
  | nil =>
    have back := each first (by simp)
    obtain ⟨steps, rfl⟩ := Nat.exists_eq_add_of_lt enough
    obtain ⟨ends, closed⟩ := ends_close closes rest
    have noComma : close ≠ ',' := by
      rcases closes with rfl | rfl <;> decide
    have after : further write gap last close [] ++ rest = last ++ close :: rest := by
      simp [further]
    rw [List.length_nil, Nat.zero_add, readParts, blank.skipSpace_append,
      skipSpace_of_begins (back.begins.append _), after]
    simp [back.reads _ (blankToo.ends ends), blankToo.skipSpace_append, closed]
  -- Behind the part stands a comma, and then the next gap.
  | cons next later ih =>
    have back := each first (by simp)
    cases steps with
    | zero => cases enough
    | succ steps =>
      have others := ih (fun item among => each item (List.mem_cons_of_mem first among))
        (Nat.lt_of_succ_lt_succ enough)
      have comma : further write gap last close (next :: later) ++ rest =
          ',' :: (gap ++ (write next ++ (further write gap last close later ++ rest))) := by
        simp [further]
      have unskipped : ∀ text, skipSpace (',' :: text) = ',' :: text := by
        simp [skipSpace, isSpace]
      rw [readParts, blank.skipSpace_append, skipSpace_of_begins (back.begins.append _), comma]
      simp [back.reads _ (show Ends (',' :: _) by simp [Ends]), unskipped, others]

/-- A group of parts is read back, after its opening character. -/
theorem readGroup_further (closes : close = ']' ∨ close = '\x7d') (blank : Blank gap)
    (blankToo : Blank last) {first : α} {others : List α}
    (each : ∀ item ∈ first :: others, ReadsBack write part close item) :
    readGroup part close (gap ++ (write first ++ (further write gap last close others ++ rest))) =
      some (first :: others, rest) := by
  have begins := (each first (by simp)).begins.append (further write gap last close others ++ rest)
  have enough : others.length <
      (gap ++ (write first ++ (further write gap last close others ++ rest))).length := by
    have commas : others.length < (further write gap last close others).length :=
      length_lt_further others
    simp only [List.length_append]
    omega
  rw [readGroup, blank.skipSpace_append, skipSpace_of_begins begins]
  -- The group is not empty, for it does not begin with its end.
  split
  · rename_i c later same
    rw [same] at begins
    rw [if_neg begins.2]
    exact readParts_further closes blank blankToo each enough
  · rename_i empty
    rw [empty] at begins
    exact begins.elim

/-- An empty group is read back. -/
theorem readGroup_close (closes : close = ']' ∨ close = '\x7d') :
    readGroup part close (close :: rest) = some ([], rest) := by
  -- The closing character comes first, and it opens no part.
  rw [readGroup, (ends_close closes rest).2]
  simp

end Groups

/-- Where a text has gaps between its parts: one behind each opening bracket and comma and in front of
each closing bracket, depending on how deep the part lies, and one behind each colon. -/
structure Layout where
  gap : Nat → List Char
  colon : List Char

/-- All gaps are blank. -/
structure Layout.IsBlank (layout : Layout) : Prop where
  gap : ∀ level, Blank (layout.gap level)
  colon : Blank layout.colon

mutual

/-- The document with gaps between its parts. -/
def spread (layout : Layout) (level : Nat) : Json → List Char
  | array (item :: rest) =>
    '[' :: (layout.gap (level + 1) ++ (item.spread layout (level + 1) ++
      spreadItems layout level rest))
  | object ((name, value) :: rest) =>
    '\x7b' :: (layout.gap (level + 1) ++ ((quote name ++ ':' :: (layout.colon ++
      value.spread layout (level + 1))) ++ spreadMembers layout level rest))
  -- Scalars and empty containers have no gaps to fill.
  | document => document.compact
termination_by structural document => document

/-- Further elements, and the end of their array. -/
def spreadItems (layout : Layout) (level : Nat) : List Json → List Char
  | [] => layout.gap level ++ [']']
  | item :: rest =>
    ',' :: (layout.gap (level + 1) ++ (item.spread layout (level + 1) ++
      spreadItems layout level rest))
termination_by structural items => items

/-- Further members, and the end of their object. -/
def spreadMembers (layout : Layout) (level : Nat) : List (String × Json) → List Char
  | [] => layout.gap level ++ ['\x7d']
  | (name, value) :: rest =>
    ',' :: (layout.gap (level + 1) ++ ((quote name ++ ':' :: (layout.colon ++
      value.spread layout (level + 1))) ++ spreadMembers layout level rest))
termination_by structural members => members

end

/-- A member as it is written. -/
def spreadMember (layout : Layout) (level : Nat) (member : String × Json) : List Char :=
  quote member.1 ++ ':' :: (layout.colon ++ member.2.spread layout level)

variable {layout : Layout} {level : Nat}

/-- The further elements of an array. -/
theorem spreadItems_eq (items : List Json) : spreadItems layout level items =
    further (spread layout (level + 1)) (layout.gap (level + 1)) (layout.gap level) ']' items := by
  -- Each further element stands behind a comma and a gap.
  induction items with
  | nil => rfl
  | cons item rest ih => simp [spreadItems, ih, further]

/-- The further members of an object. -/
theorem spreadMembers_eq (members : List (String × Json)) : spreadMembers layout level members =
    further (spreadMember layout (level + 1)) (layout.gap (level + 1)) (layout.gap level) '\x7d'
      members := by
  -- Each further member stands behind a comma and a gap.
  induction members with
  | nil => rfl
  | cons member rest ih =>
    obtain ⟨name, item⟩ := member
    simp [spreadMembers, ih, further, spreadMember]

/-- An array of elements, after its opening character. -/
theorem spread_array (first : Json) (others : List Json) (rest : List Char) :
    (array (first :: others)).spread layout level ++ rest =
      '[' :: (layout.gap (level + 1) ++ (first.spread layout (level + 1) ++
        (further (spread layout (level + 1)) (layout.gap (level + 1)) (layout.gap level) ']' others ++
          rest))) := by
  simp [spread, spreadItems_eq]

/-- An object of members, after its opening character. -/
theorem spread_object (first : String × Json) (others : List (String × Json)) (rest : List Char) :
    (object (first :: others)).spread layout level ++ rest =
      '\x7b' :: (layout.gap (level + 1) ++ (spreadMember layout (level + 1) first ++
        (further (spreadMember layout (level + 1)) (layout.gap (level + 1)) (layout.gap level) '\x7d'
          others ++ rest))) := by
  -- The first member has no comma in front of it.
  obtain ⟨name, item⟩ := first
  simp [spread, spreadMembers_eq, spreadMember]

/-- A member is read back if what stands behind its name is. -/
theorem readsBack_member {value : Reader Json} {member : String × Json} (blank : Blank layout.colon)
    (back : ReadsBack (spread layout level) value '\x7d' member.2) :
    ReadsBack (spreadMember layout level) (readMember value) '\x7d' member where
  begins := by simp [spreadMember, quote, Begins, isSpace]
  reads := by
    intro rest ends
    obtain ⟨name, item⟩ := member
    obtain ⟨written, same, read⟩ :=
      readText_quote name (':' :: (layout.colon ++ (item.spread layout level ++ rest)))
    -- No space stands in front of the colon, and what stands behind it is skipped.
    have colon : ∀ text, skipSpace (':' :: text) = ':' :: text := by
      simp [skipSpace, isSpace]
    have unskipped := skipSpace_of_begins (back.begins.append rest)
    have split : spreadMember layout level (name, item) ++ rest = '"' :: written := by
      rw [← same]
      simp [spreadMember]
    rw [split, readMember]
    simp [after?, read, colon, blank.skipSpace_append, unskipped, back.reads rest ends]

/-- A document begins with no space, and not with the end of a group. -/
theorem Writable.begins {depth : Nat} {document : Json} (writable : Writable depth document)
    {close : Char} (closes : close = ']' ∨ close = '\x7d') :
    Begins close (document.spread layout level) := by
  cases writable with
  | null => rcases closes with rfl | rfl <;> simp [spread, compact, Begins, isSpace]
  | bool truth =>
    rcases closes with rfl | rfl <;> cases truth <;> simp [spread, compact, Begins, isSpace]
  | @integer _ n =>
    -- An integer begins with its sign or with a digit.
    obtain ⟨first, others, leading, free⟩ := signedNumeral_eq_cons n
    rw [spread, compact, leading]
    · rcases closes with rfl | rfl <;> simp_all [Begins, isSpace]
    · simp
    · simp
  | string text => rcases closes with rfl | rfl <;> simp [spread, compact, quote, Begins, isSpace]
  | @array _ items =>
    rcases closes with rfl | rfl <;> cases items <;> simp [spread, compact, Begins, isSpace]
  | @object _ members =>
    rcases closes with rfl | rfl <;> cases members <;> simp [spread, compact, Begins, isSpace]

/-- A document that begins with no bracket is read as a scalar, however deep it may be nested. -/
theorem readNested_scalar (depth : Nat) {text : List Char} (noArray : ∀ later, text ≠ '[' :: later)
    (noObject : ∀ later, text ≠ '\x7b' :: later) : readNested depth text = readScalar text := by
  cases depth <;> rw [readNested] <;> simp_all

/-- With nothing but blanks in its gaps, a document is read back in front of what may follow it. -/
theorem Writable.readNested_spread (blank : layout.IsBlank) {depth : Nat} {document : Json}
    (writable : Writable depth document) : ∀ level rest, Ends rest →
      readNested depth (document.spread layout level ++ rest) = some (document, rest) := by
  -- The induction is over what lies inside, which is read one level further in.
  induction writable with
  | null =>
    intro level rest ends
    rw [readNested_scalar] <;> simp [spread, compact, readScalar, after?]
  | bool truth =>
    intro level rest ends
    cases truth <;> rw [readNested_scalar] <;> simp [spread, compact, readScalar, after?]
  | @integer depth n low high =>
    intro level rest ends
    obtain ⟨first, others, leading, free⟩ := signedNumeral_eq_cons n
    have written : (Json.integer n).spread layout level = signedNumeral n := rfl
    -- No numeral begins with a bracket.
    have scalar : readNested depth (signedNumeral n ++ rest) =
        readScalar (signedNumeral n ++ rest) := by
      rw [leading, readNested_scalar] <;> simp_all
    rw [written, scalar, readScalar_integer low high ends]
  | string text =>
    intro level rest ends
    obtain ⟨written, same, read⟩ := readText_quote text rest
    have quoted : (Json.string text).spread layout level = quote text := rfl
    rw [quoted, same, readNested_scalar]
    · simp [readScalar, read]
    · simp
    · simp
  | @array depth items each ih =>
    intro level rest ends
    cases items with
    | nil =>
      show readNested (depth + 1) ('[' :: ']' :: rest) = _
      simp [readNested, readGroup_close]
    | cons first others =>
      -- The elements are read one after another, each by the induction hypothesis.
      rw [spread_array, readNested, readGroup_further (.inl rfl) (blank.gap _) (blank.gap _)]
      · rfl
      · intro item among
        exact ⟨(each item among).begins (.inl rfl), ih item among _⟩
  | @object depth members distinct each ih =>
    intro level rest ends
    cases members with
    | nil =>
      show readNested (depth + 1) ('\x7b' :: '\x7d' :: rest) = _
      simp [readNested, readGroup_close]
    | cons first others =>
      -- So are the members, each behind its name.
      rw [spread_object, readNested, readGroup_further (.inr rfl) (blank.gap _) (blank.gap _)]
      · rfl
      · intro member among
        exact readsBack_member blank.colon
          ⟨(each member.1 member.2 among).begins (.inr rfl), ih member.1 member.2 among _⟩

/-- Members of distinct names are not changed by merging them. -/
theorem Writable.settle {depth : Nat} {document : Json} (writable : Writable depth document) :
    document.settle = document := by
  -- Names that are distinct already are put in one behind the other.
  induction writable with
  | null | bool | integer | string => rfl
  | @array depth items each ih =>
    have same : items.map Json.settle = items :=
      (List.map_congr_left ih).trans (List.map_id' items)
    rw [Json.settle, settleItems_eq_map, same]
  | @object depth members distinct each ih =>
    have same : (members.map fun member => (member.1, member.2.settle)) = members := by
      refine (List.map_congr_left fun member among => ?_).trans (List.map_id' members)
      rw [ih member.1 member.2 among]
    rw [Json.settle, settleMembers_eq_map, same, Members.ofPairs_of_nodup distinct]

/-- A document that is nested at most as deeply as documents may be is read back from a text with
blanks in its gaps and behind it. -/
theorem Writable.read?_spread (blank : layout.IsBlank) {document : Json}
    (writable : Writable depthLimit document) {behind : List Char} (blankBehind : Blank behind) :
    read? (String.ofList (document.spread layout level ++ behind)) = some document := by
  have begins : Begins ']' (document.spread layout level) := writable.begins (.inl rfl)
  have unskipped := skipSpace_of_begins (begins.append behind)
  have nothing : skipSpace behind = [] := List.dropWhile_eq_nil_iff.2 blankBehind
  -- What follows is skipped, and members of distinct names are left as they are.
  have ends : Ends behind := by
    simpa using blankBehind.ends (show Ends [] from trivial)
  have raw : readRaw? (String.ofList (document.spread layout level ++ behind)) = some document := by
    simp [readRaw?, unskipped, writable.readNested_spread blank level behind ends, nothing]
  rw [read?, raw, Option.map_some, writable.settle]

/-- No gaps at all. -/
def Layout.dense : Layout :=
  ⟨fun _ => [], []⟩

mutual

/-- The compact text is the one without gaps. -/
theorem spread_dense : ∀ (document : Json) (level : Nat),
    document.spread .dense level = document.compact
  | array [], _ | object [], _ | null, _ | bool _, _ | integer _, _ | float _, _ | string _, _ => rfl
  | array (item :: rest), level => by
    -- With empty gaps only the punctuation is left.
    simp [spread, compact, Layout.dense, ← spread_dense item (level + 1),
      ← spreadItems_dense rest level]
  | object ((name, value) :: rest), level => by
    simp [spread, compact, Layout.dense, ← spread_dense value (level + 1),
      ← spreadMembers_dense rest level]

/-- Further elements without gaps. -/
theorem spreadItems_dense : ∀ (items : List Json) (level : Nat),
    spreadItems .dense level items = compactItems items
  | [], _ => rfl
  | item :: rest, level => by
    simp [spreadItems, compactItems, Layout.dense, ← spread_dense item (level + 1),
      ← spreadItems_dense rest level]

/-- Further members without gaps. -/
theorem spreadMembers_dense : ∀ (members : List (String × Json)) (level : Nat),
    spreadMembers .dense level members = compactMembers members
  | [], _ => rfl
  | (name, value) :: rest, level => by
    simp [spreadMembers, compactMembers, Layout.dense, ← spread_dense value (level + 1),
      ← spreadMembers_dense rest level]

end

/-- A document that is nested at most as deeply as documents may be is read back from its text. -/
theorem read?_toText {document : Json} (writable : Writable depthLimit document) :
    read? document.toText = some document := by
  -- Its text has no gaps, and nothing stands behind it.
  have nothing : Blank [] := by simp [Blank]
  have blank : Layout.dense.IsBlank := ⟨fun _ => nothing, nothing⟩
  have written : document.spread .dense 0 ++ [] = document.compact := by
    rw [List.append_nil, spread_dense]
  rw [toText, ← written]
  exact writable.read?_spread blank nothing

end Conform.Json
