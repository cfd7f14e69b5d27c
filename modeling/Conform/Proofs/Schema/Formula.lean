import Mathlib.Data.List.DropRight
import Conform.Proofs.Traversal
import Conform.Schema.Shorthand

/-! A shorthand read at one go: alternatives of conjuncts of names, with question marks at three
levels. -/

namespace Conform

namespace Shorthand

/-- The text in front of the question marks that it ends with. -/
def body (text : List Char) : List Char :=
  text.rdropWhile (· == '?')

/-- The number of question marks that a text ends with. -/
def marks (text : List Char) : Nat :=
  (text.rtakeWhile (· == '?')).length

/-- Trims pieces that all stand behind a separator; only the last has none behind it as well. -/
def trimLater : List (List Char) → List (List Char)
  | [] => []
  -- The end of the text is no separator, so the blanks before it stay.
  | [last] => [trimLeft last]
  | piece :: rest => trimRight (trimLeft piece) :: trimLater rest

/-- Trims pieces on the sides that face a separator between them. -/
def trimFacing : List (List Char) → List (List Char)
  | [] => []
  | [whole] => [whole]
  | first :: rest => trimRight first :: trimLater rest

/-- The parts of a text between separators, trimmed on the sides that touch one. -/
def parts (separator : Char) (text : List Char) : List (List Char) :=
  trimFacing (text.splitOn separator)

/-- A name and the question marks behind it. -/
structure Conjunct where
  atom : String
  marks : Nat

/-- Conjuncts and the question marks behind all of them. -/
structure Alternative where
  conjuncts : List Conjunct
  marks : Nat

/-- Alternatives and the question marks behind all of them. -/
structure Formula where
  alternatives : List Alternative
  marks : Nat

/-- Reads a name with its question marks. -/
def Conjunct.ofText (text : List Char) : Conjunct :=
  ⟨String.ofList (body text), Shorthand.marks text⟩

/-- Reads what stands between ampersands, behind which question marks may follow. -/
def Alternative.ofText (text : List Char) : Alternative :=
  ⟨(parts '&' (body text)).map Conjunct.ofText, Shorthand.marks text⟩

/-- Reads what stands between bars, behind which question marks may follow. -/
def Formula.ofText (text : List Char) : Formula :=
  ⟨(parts '|' (body text)).map Alternative.ofText, Shorthand.marks text⟩

section Marks

/-- A text is its body and then its question marks. -/
theorem body_append_marks (text : List Char) :
    body text ++ List.replicate (marks text) '?' = text := by
  -- What is cut off the end is made of nothing but question marks, so their number tells it all.
  have questions : text.rtakeWhile (· == '?') = List.replicate (marks text) '?' := by
    refine List.eq_replicate_iff.2 ⟨rfl, fun c found => ?_⟩
    simpa using List.mem_rtakeWhile_imp found
  rw [← questions]
  exact List.rdropWhile_append_rtakeWhile

/-- The body of a text does not end with a question mark. -/
theorem getLast?_body_ne (text : List Char) : (body text).getLast? ≠ some '?' := by
  -- All question marks at the end have been dropped.
  intro ends
  obtain ⟨nonempty, last⟩ := List.mem_getLast?_eq_getLast ends
  exact List.rdropWhile_last_not _ _ nonempty (beq_iff_eq.2 last.symm)

/-- One more question mark does not change the body. -/
theorem body_concat (text : List Char) : body (text ++ ['?']) = body text :=
  List.rdropWhile_concat_pos _ _ _ rfl

/-- One more question mark counts. -/
theorem marks_concat (text : List Char) : marks (text ++ ['?']) = marks text + 1 := by
  -- What is taken from the end is longer by the new mark.
  rw [marks, List.rtakeWhile_concat_pos _ _ _ rfl, List.length_append]
  rfl

/-- A text that does not end with a question mark is its own body. -/
theorem body_of_unmarked {text : List Char} (unmarked : text.getLast? ≠ some '?') :
    body text = text := by
  -- Nothing is dropped from the end unless a question mark stands there.
  refine List.rdropWhile_eq_self_iff.2 fun nonempty last => unmarked ?_
  rw [List.getLast?_eq_some_getLast nonempty, beq_iff_eq.1 last]

/-- A text that does not end with a question mark has none at its end to count. -/
theorem marks_of_unmarked {text : List Char} (unmarked : text.getLast? ≠ some '?') :
    marks text = 0 := by
  -- The body has the length of the whole text, which leaves none for question marks.
  have whole := congrArg List.length (body_append_marks text)
  rw [body_of_unmarked unmarked, List.length_append, List.length_replicate] at whole
  omega

/-- The body holds no other characters than the text. -/
theorem body_subset (text : List Char) : body text ⊆ text :=
  (List.rdropWhile_prefix (· == '?') text).subset

end Marks

section Parts

/-- Cutting a text into pieces is splitting it at the separator. -/
theorem pieces_eq_splitOn (separator : Char) (text : List Char) :
    pieces separator text = text.splitOn separator := by
  induction text with
  | nil => rfl
  | cons c rest ih =>
    rw [pieces, ih, List.splitOn_cons_eq_if_modifyHead]
    by_cases same : c = separator
    · simp [same]
    · -- The character goes to the front of the first piece.
      rw [if_neg same, if_neg (by simpa using same)]
      cases split : rest.splitOn separator with
      | nil => exact absurd split (List.splitOn_ne_nil separator rest)
      | cons first others => rfl

/-- Trimming by position is trimming one piece after another, behind the first. -/
theorem mapIdx_trimLater (rest : List (List Char)) (offset : Nat) :
    rest.mapIdx (fun place piece =>
      if place + offset + 1 < rest.length + offset then trimRight (trimLeft piece)
      else trimLeft piece) = trimLater rest := by
  -- Behind the first of the pieces, the others stand one place further on.
  induction rest generalizing offset with
  | nil => rfl
  | cons piece others ih =>
    have tail := ih (offset + 1)
    rw [List.mapIdx_cons]
    cases others with
    | nil =>
      rw [if_neg (by simp; omega)]
      rfl
    | cons next more =>
      rw [trimLater, ← tail]
      · simp only [List.length_cons]
        rw [if_pos (by omega)]
        congr 2
        funext place piece
        congr 1
        simp only [eq_iff_iff]
        omega
      · simp

/-- The fragments of a text are its parts. -/
theorem fragments_eq_parts (separator : Char) (text : List Char) :
    fragments separator text = parts separator text := by
  rw [fragments, parts, pieces_eq_splitOn]
  -- A single piece has no separator to face, and of several only the first has none in front.
  cases text.splitOn separator with
  | nil => rfl
  | cons first rest =>
    cases rest with
    | nil => rfl
    | cons next more =>
      rw [trimFacing, ← mapIdx_trimLater (next :: more) 1, List.mapIdx_cons]
      · simp
      · simp

/-- Trimming on the left leaves only characters of the text. -/
theorem trimLeft_subset (text : List Char) : trimLeft text ⊆ text :=
  (List.dropWhile_sublist _).subset

/-- Trimming on the right leaves only characters of the text. -/
theorem trimRight_subset (text : List Char) : trimRight text ⊆ text := by
  -- Trimming drops characters from the reversed text.
  intro c held
  rw [trimRight, List.mem_reverse] at held
  exact List.mem_reverse.1 ((List.dropWhile_sublist _).subset held)

/-- A part lies within a piece that the text is split into. -/
theorem exists_piece_of_mem_trimFacing {pieces : List (List Char)} :
    ∀ part ∈ trimFacing pieces, ∃ piece ∈ pieces, part ⊆ piece := by
  -- Behind the first piece, every piece is trimmed on its left and perhaps on its right.
  have later : ∀ rest, ∀ part ∈ trimLater rest, ∃ piece ∈ rest, part ⊆ piece := by
    intro rest
    induction rest with
    | nil => simp [trimLater]
    | cons piece others ih =>
      intro part found
      cases others with
      | nil =>
        obtain rfl := List.mem_singleton.1 found
        exact ⟨piece, List.mem_cons_self, trimLeft_subset piece⟩
      | cons next more =>
        rcases List.mem_cons.1 found with rfl | found
        · exact ⟨piece, List.mem_cons_self,
            fun c held => trimLeft_subset piece (trimRight_subset _ held)⟩
        · obtain ⟨origin, among, within⟩ := ih part found
          exact ⟨origin, List.mem_cons_of_mem _ among, within⟩
  -- The first piece is trimmed on its right, unless it is the only one.
  intro part found
  cases pieces with
  | nil => cases found
  | cons first others =>
    cases others with
    | nil =>
      obtain rfl := List.mem_singleton.1 found
      exact ⟨part, List.mem_cons_self, List.Subset.refl part⟩
    | cons next more =>
      rcases List.mem_cons.1 found with rfl | found
      · exact ⟨first, List.mem_cons_self, trimRight_subset first⟩
      · obtain ⟨origin, among, within⟩ := later _ part found
        exact ⟨origin, List.mem_cons_of_mem _ among, within⟩

/-- A piece holds characters of the text, but not the separator. -/
theorem of_mem_splitOn {separator : Char} {text : List Char} :
    ∀ piece ∈ text.splitOn separator, piece ⊆ text ∧ separator ∉ piece := by
  induction text with
  | nil => simp [List.splitOn_nil]
  | cons c rest ih =>
    intro piece found
    rw [List.splitOn_cons_eq_if_modifyHead] at found
    split at found
    · rcases List.mem_cons.1 found with rfl | found
      · simp
      · exact ⟨fun d held => List.mem_cons_of_mem c ((ih piece found).1 held), (ih piece found).2⟩
    · rename_i differs
      -- Only the first piece has grown, and by a character that is no separator.
      cases split : rest.splitOn separator with
      | nil => exact absurd split (List.splitOn_ne_nil separator rest)
      | cons first others =>
        rw [split] at found ih
        rcases List.mem_cons.1 found with rfl | found
        · obtain ⟨within, absent⟩ := ih first List.mem_cons_self
          refine ⟨List.cons_subset_cons c within, fun held => ?_⟩
          rcases List.mem_cons.1 held with same | held
          · exact differs (beq_iff_eq.2 same.symm)
          · exact absent held
        · obtain ⟨within, absent⟩ := ih piece (List.mem_cons_of_mem _ found)
          exact ⟨fun d held => List.mem_cons_of_mem c (within held), absent⟩

/-- A part holds characters of the text, but not the separator. -/
theorem of_mem_parts {separator : Char} {text part : List Char}
    (among : part ∈ parts separator text) : part ⊆ text ∧ separator ∉ part := by
  -- A part is a trimmed piece, and the pieces are what the separators leave.
  obtain ⟨piece, found, within⟩ := exists_piece_of_mem_trimFacing part among
  obtain ⟨inside, absent⟩ := of_mem_splitOn piece found
  exact ⟨fun c held => inside (within held), fun held => absent (within held)⟩

/-- A text without the separator is its only part. -/
theorem parts_of_not_mem {separator : Char} {text : List Char} (absent : separator ∉ text) :
    parts separator text = [text] := by
  -- A text that is not split is not trimmed either.
  rw [parts, List.splitOn_eq_singleton absent]
  rfl

/-- A text with the separator has several parts. -/
theorem parts_of_mem {separator : Char} {text : List Char} (present : separator ∈ text) :
    ∃ first next more, parts separator text = first :: next :: more := by
  -- There are pieces on both sides of the separator.
  obtain ⟨front, back, rfl⟩ := List.append_of_mem present
  rw [parts, List.splitOn_append_cons_self]
  cases before : front.splitOn separator with
  | nil => exact absurd before (List.splitOn_ne_nil separator front)
  | cons first others =>
    have several : ∃ next more, others ++ back.splitOn separator = next :: more := by
      cases others with
      | nil => exact List.exists_cons_of_ne_nil (List.splitOn_ne_nil separator back)
      | cons next more => exact ⟨next, more ++ back.splitOn separator, rfl⟩
    obtain ⟨next, more, same⟩ := several
    rw [List.cons_append, same]
    cases more with
    | nil => exact ⟨_, _, _, rfl⟩
    | cons third rest => exact ⟨_, _, _, rfl⟩

/-- A text has a part. -/
theorem parts_ne_nil (separator : Char) (text : List Char) : parts separator text ≠ [] := by
  -- Without the separator there is one part, and with it there are at least two.
  by_cases present : separator ∈ text
  · obtain ⟨first, next, more, several⟩ := parts_of_mem present
    simp [several]
  · simp [parts_of_not_mem present]

end Parts

/-- Builds a single part by itself, and combines what several parts are built into. -/
def joined {α : Type} (combine : List Schema → Option Defaults → Schema)
    (build : α → Option Defaults → Built) (defaults : Option Defaults) : List α → Built
  | [only] => build only defaults
  -- Parts have no default of their own; what they are combined into carries it.
  | several => do return combine (← several.mapM (build · none)) defaults

/-- Makes a schema optional a number of times over. -/
def optionals (scope : Scope) : Nat → Schema → Built
  | 0, schema => .ok schema
  | count + 1, schema => do scope.optional (← optionals scope count schema) none

/-- Builds a name, as often optional as there are question marks behind it. -/
def Conjunct.build (scope : Scope) (conjunct : Conjunct) (defaults : Option Defaults) : Built := do
  optionals scope conjunct.marks (← scope.scalar conjunct.atom defaults)

/-- Builds the intersection of conjuncts, as often optional as there are question marks behind it. -/
def Alternative.build (scope : Scope) (alternative : Alternative) (defaults : Option Defaults) :
    Built := do
  optionals scope alternative.marks
    (← joined scope.intersection (Conjunct.build scope) defaults alternative.conjuncts)

/-- Builds the union of alternatives, as often optional as there are question marks behind it. -/
def Formula.build (scope : Scope) (formula : Formula) (defaults : Option Defaults) : Built := do
  optionals scope formula.marks
    (← joined scope.union (Alternative.build scope) defaults formula.alternatives)

section Joined

variable {α β : Type} {combine : List Schema → Option Defaults → Schema}
  {build : α → Option Defaults → Built} {defaults : Option Defaults}

/-- Several parts are combined. -/
theorem joined_several {first next : α} {more : List α} :
    joined combine build defaults (first :: next :: more) =
      (do return combine (← (first :: next :: more).mapM (build · none)) defaults) :=
  rfl

/-- Joining comes to the same under builders that agree on the parts. -/
theorem joined_congr {other : α → Option Defaults → Built} {items : List α}
    (same : ∀ item ∈ items, ∀ defaults, build item defaults = other item defaults) :
    joined combine build defaults items = joined combine other defaults items := by
  -- A single part is built with the default, and several are built without it.
  have each : items.mapM (build · none) = items.mapM (other · none) :=
    mapM_congr fun item among => same item among none
  match items with
  | [] => rfl
  | [only] => exact same only List.mem_cons_self defaults
  | first :: next :: more => rw [joined_several, joined_several, each]

/-- Joining what parts are read as is joining the parts, read one by one. -/
theorem joined_map (read : β → α) (items : List β) :
    joined combine build defaults (items.map read) =
      joined combine (fun item => build (read item)) defaults items := by
  -- One item is built by itself, and several are built one after another either way.
  match items with
  | [] => rfl
  | [only] => rfl
  | first :: next :: more =>
    rw [List.map_cons, List.map_cons, joined_several, joined_several, ← List.map_cons,
      ← List.map_cons, List.mapM_map]
    rfl

end Joined

section Recursion

variable {scope : Scope} {text : List Char} {defaults : Option Defaults}

/-- A text with one more question mark is optional once more. -/
theorem shorthand_concat (scope : Scope) (text : List Char) (defaults : Option Defaults) :
    scope.shorthand (text ++ ['?']) defaults =
      (do scope.optional (← scope.shorthand text defaults) none) := by
  rw [Scope.shorthand, dif_pos List.getLast?_concat, List.dropLast_concat]

/-- The question marks at the end of a text make what its body means optional. -/
theorem shorthand_eq_optionals (scope : Scope) (text : List Char) (defaults : Option Defaults) :
    scope.shorthand text defaults =
      (do optionals scope (marks text) (← scope.shorthand (body text) defaults)) := by
  have plain : ∀ text : List Char, text.getLast? ≠ some '?' →
      scope.shorthand text defaults =
        (do optionals scope (marks text) (← scope.shorthand (body text) defaults)) := by
    intro text unmarked
    rw [body_of_unmarked unmarked, marks_of_unmarked unmarked]
    cases scope.shorthand text defaults <;> rfl
  -- The induction takes the question marks off one by one, from the last to the first.
  induction text using List.reverseRecOn with
  | nil => exact plain [] (by simp)
  | append_singleton front c ih =>
    by_cases question : c = '?'
    · subst question
      rw [shorthand_concat, ih, body_concat, marks_concat, bind_assoc]
      rfl
    · exact plain (front ++ [c]) (by simpa using question)

/-- The parts of a text are built as the shorthands that they are. -/
theorem mapM_fragments (scope : Scope) (separator : Char) (text : List Char) :
    ((fragments separator text).attach.mapM fun part => scope.shorthand part.1 none) =
      (parts separator text).mapM (scope.shorthand · none) := by
  -- That the parts are shorter than the text matters to the recursion alone.
  rw [← fragments_eq_parts, List.mapM_subtype (g := fun part => scope.shorthand part none)]
  · rw [List.unattach_attach]
  · intro part among
    rfl

/-- A text that does not end with a question mark but has a bar is a union. -/
theorem shorthand_of_bar (unmarked : text.getLast? ≠ some '?') (bar : '|' ∈ text) :
    scope.shorthand text defaults =
      (do return scope.union (← (parts '|' text).mapM (scope.shorthand · none)) defaults) := by
  rw [Scope.shorthand, dif_neg unmarked, dif_pos bar, mapM_fragments]

/-- A text that does not end with a question mark and has only ampersands is an intersection. -/
theorem shorthand_of_ampersand (unmarked : text.getLast? ≠ some '?') (noBar : '|' ∉ text)
    (ampersand : '&' ∈ text) :
    scope.shorthand text defaults =
      (do
        return scope.intersection (← (parts '&' text).mapM (scope.shorthand · none)) defaults) := by
  rw [Scope.shorthand, dif_neg unmarked, dif_neg noBar, dif_pos ampersand, mapM_fragments]

/-- A text without any of the signs is a name. -/
theorem shorthand_of_name (unmarked : text.getLast? ≠ some '?') (noBar : '|' ∉ text)
    (noAmpersand : '&' ∉ text) :
    scope.shorthand text defaults = scope.scalar (String.ofList text) defaults := by
  rw [Scope.shorthand, dif_neg unmarked, dif_neg noBar, dif_neg noAmpersand]

/-- A text means its parts joined, if it means their combination where there is a separator. -/
theorem shorthand_eq_joined {separator : Char}
    {combine : List Schema → Option Defaults → Schema}
    {build : List Char → Option Defaults → Built}
    (combined : separator ∈ text → scope.shorthand text defaults =
      (do return combine (← (parts separator text).mapM (scope.shorthand · none)) defaults))
    (each : ∀ part ∈ parts separator text, ∀ defaults,
      scope.shorthand part defaults = build part defaults) :
    scope.shorthand text defaults = joined combine build defaults (parts separator text) := by
  -- With a separator there are two parts or more, and without one the text is its only part.
  rw [← joined_congr each]
  by_cases present : separator ∈ text
  · obtain ⟨first, next, more, several⟩ := parts_of_mem present
    rw [combined present, several, joined_several]
  · rw [parts_of_not_mem present]
    rfl

/-- A text without bars and ampersands means a name with its question marks. -/
theorem shorthand_eq_conjunct (noBar : '|' ∉ text) (noAmpersand : '&' ∉ text) :
    scope.shorthand text defaults = (Conjunct.ofText text).build scope defaults := by
  -- What is left without the question marks is a name, since no bar and no ampersand come from them.
  have name : scope.shorthand (body text) defaults =
      scope.scalar (String.ofList (body text)) defaults :=
    shorthand_of_name (getLast?_body_ne text) (fun held => noBar (body_subset text held))
      fun held => noAmpersand (body_subset text held)
  rw [shorthand_eq_optionals, name]
  rfl

/-- A text without bars means an intersection with its question marks. -/
theorem shorthand_eq_alternative (noBar : '|' ∉ text) :
    scope.shorthand text defaults = (Alternative.ofText text).build scope defaults := by
  have noBarInside : '|' ∉ body text := fun held => noBar (body_subset text held)
  have conjuncts : scope.shorthand (body text) defaults =
      joined scope.intersection (Conjunct.build scope) defaults
        ((parts '&' (body text)).map Conjunct.ofText) := by
    rw [joined_map]
    refine shorthand_eq_joined (shorthand_of_ampersand (getLast?_body_ne text) noBarInside) ?_
    -- What stands between ampersands has neither of the two signs.
    intro part among defaults
    obtain ⟨within, absent⟩ := of_mem_parts among
    exact shorthand_eq_conjunct (fun held => noBarInside (within held)) absent
  rw [shorthand_eq_optionals, conjuncts]
  rfl

/-- A text means what its formula is built into. -/
theorem shorthand_eq_formula (scope : Scope) (text : List Char) (defaults : Option Defaults) :
    scope.shorthand text defaults = (Formula.ofText text).build scope defaults := by
  have alternatives : scope.shorthand (body text) defaults =
      joined scope.union (Alternative.build scope) defaults
        ((parts '|' (body text)).map Alternative.ofText) := by
    rw [joined_map]
    refine shorthand_eq_joined (shorthand_of_bar (getLast?_body_ne text)) ?_
    -- What stands between bars has no bars.
    intro part among defaults
    exact shorthand_eq_alternative (of_mem_parts among).2
  rw [shorthand_eq_optionals, alternatives]
  rfl

end Recursion

end Shorthand

end Conform
