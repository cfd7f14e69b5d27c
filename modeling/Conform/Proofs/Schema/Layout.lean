import Conform.Proofs.Schema.Formula

/-! Names that are laid out with blanks around the signs between them are read back as they are. -/

namespace Conform

section Trimming

variable {c : Char} {text : List Char}

/-- Trimming on the left goes no further than to a character that is not blank. -/
theorem trimLeft_append_cons (visible : isBlank c = false) (front back : List Char) :
    trimLeft (front ++ c :: back) = trimLeft front ++ c :: back := by
  -- Blanks in front go one by one, and the first other character is the end of it.
  induction front with
  | nil => simp [trimLeft, visible]
  | cons first rest ih =>
    by_cases blank : isBlank first = true
    · simpa [trimLeft, blank] using ih
    · simp [trimLeft, blank]

/-- Trimming on the right goes no further than to a character that is not blank. -/
theorem trimRight_append_cons (visible : isBlank c = false) (front back : List Char) :
    trimRight (front ++ c :: back) = front ++ c :: trimRight back := by
  -- Seen from behind, this is trimming on the left.
  have mirrored := trimLeft_append_cons visible back.reverse front.reverse
  simp only [trimLeft] at mirrored
  simp [trimRight, mirrored]

/-- Nothing is left of blanks. -/
theorem trim_of_blank (blank : ∀ c ∈ text, isBlank c = true) :
    trimLeft text = [] ∧ trimRight text = [] := by
  -- Every character is dropped from either side.
  constructor
  · simpa [trimLeft, List.dropWhile_eq_nil_iff] using blank
  · simpa [trimRight, List.dropWhile_eq_nil_iff] using blank

/-- It does not matter on which side a text is trimmed first. -/
theorem trimLeft_trimRight (text : List Char) :
    trimLeft (trimRight text) = trimRight (trimLeft text) := by
  by_cases blank : ∀ c ∈ text, isBlank c = true
  · rw [(trim_of_blank blank).1, (trim_of_blank blank).2]
    rfl
  · -- A character that is not blank keeps the two sides apart.
    obtain ⟨c, held, visible⟩ : ∃ c ∈ text, isBlank c = false := by simpa using blank
    obtain ⟨front, back, rfl⟩ := List.append_of_mem held
    rw [trimRight_append_cons visible, trimLeft_append_cons visible, trimLeft_append_cons visible,
      trimRight_append_cons visible]

/-- A blank at the end is trimmed away. -/
theorem trimRight_concat_blank (text : List Char) : trimRight (text ++ [' ']) = trimRight text := by
  -- Of the reversed text the blank is the first character.
  have blank : isBlank ' ' = true := by decide
  simp [trimRight, blank]

/-- A blank at the front is trimmed away. -/
theorem trimLeft_cons_blank (text : List Char) : trimLeft (' ' :: text) = trimLeft text := by
  -- The blank is the first character, so it is dropped.
  have blank : isBlank ' ' = true := by decide
  simp [trimLeft, blank]

/-- A text with blanks at neither side. -/
def Trimmed (text : List Char) : Prop :=
  trimLeft text = text ∧ trimRight text = text

end Trimming

namespace Shorthand

variable {separator c : Char} {text : List Char} {pieces : List (List Char)}

/-- A piece that others follow is trimmed on both sides, if it stands behind a separator. -/
theorem trimLater_cons (piece : List Char) (others : pieces ≠ []) :
    trimLater (piece :: pieces) = trimRight (trimLeft piece) :: trimLater pieces := by
  -- Only the last piece is not trimmed on its right.
  cases pieces with
  | nil => exact absurd rfl others
  | cons next more => rfl

/-- A first piece that others follow is trimmed on its right. -/
theorem trimFacing_cons (piece : List Char) (others : pieces ≠ []) :
    trimFacing (piece :: pieces) = trimRight piece :: trimLater pieces := by
  -- Only the last piece is not trimmed on its right.
  cases pieces with
  | nil => exact absurd rfl others
  | cons next more => rfl

/-- Every text has a property if those without the separator do, and if putting one of these and the
separator in front of a text with the property keeps it. -/
@[elab_as_elim]
theorem separatorInduction (separator : Char) {motive : List Char → Prop}
    (whole : ∀ text, separator ∉ text → motive text)
    (split : ∀ front back, separator ∉ front → motive back → motive (front ++ separator :: back))
    (text : List Char) : motive text := by
  by_cases present : separator ∈ text
  · obtain ⟨front, back, rfl, absent⟩ := List.eq_append_cons_of_mem present
    -- What stands behind the first separator is a shorter text.
    have shorter : back.length < (front ++ separator :: back).length := by
      simp only [List.length_append, List.length_cons]
      omega
    exact split front back absent (separatorInduction separator whole split back)
  · exact whole text present
termination_by text.length

/-- The parts of a text that begins with a piece and a separator. -/
theorem parts_append_cons {front : List Char} (absent : separator ∉ front) (back : List Char) :
    parts separator (front ++ separator :: back) =
      trimRight front :: trimLater (back.splitOn separator) := by
  -- The first piece ends at the first separator, and something stands behind that.
  rw [parts, List.splitOn_append_cons_self_of_not_mem absent,
    trimFacing_cons front (List.splitOn_ne_nil separator back)]

/-- Pieces that have blanks at neither side are parts as they are. -/
theorem trimFacing_of_trimmed (trimmed : ∀ piece ∈ pieces, Trimmed piece) :
    trimFacing pieces = pieces := by
  have later : ∀ pieces, (∀ piece ∈ pieces, Trimmed piece) → trimLater pieces = pieces := by
    -- Nothing is trimmed off a piece behind a separator, be it the last one or not.
    intro pieces
    induction pieces with
    | nil => exact fun _ => rfl
    | cons piece rest ih =>
      intro trimmed
      obtain ⟨head, tail⟩ := List.forall_mem_cons.1 trimmed
      by_cases last : rest = []
      · rw [last, trimLater, head.1]
      · rw [trimLater_cons piece last, head.1, head.2, ih tail]
  cases pieces with
  | nil => rfl
  | cons piece rest =>
    obtain ⟨head, tail⟩ := List.forall_mem_cons.1 trimmed
    by_cases last : rest = []
    · rw [last, trimFacing]
    · rw [trimFacing_cons piece last, head.2, later rest tail]

section Outside

/-- Trimming a text on its left does not change its parts if these have no blanks there. -/
theorem parts_trimLeft (visible : isBlank separator = false)
    (trimmed : ∀ part ∈ parts separator text, trimLeft part = part) :
    parts separator (trimLeft text) = parts separator text := by
  by_cases present : separator ∈ text
  · obtain ⟨front, back, rfl, absent⟩ := List.eq_append_cons_of_mem present
    have absentToo : separator ∉ trimLeft front := fun held => absent (trimLeft_subset front held)
    rw [parts_append_cons absent] at trimmed
    -- Only the first piece is touched, and on its right it is trimmed anyway.
    rw [trimLeft_append_cons visible, parts_append_cons absentToo, parts_append_cons absent,
      ← trimLeft_trimRight, trimmed _ List.mem_cons_self]
  · rw [parts_of_not_mem present] at trimmed
    rw [trimmed text List.mem_cons_self]

/-- Trimming a text on its right does not change the pieces in it, trimmed as those behind a separator,
if these have no blanks there. -/
theorem trimLater_splitOn_trimRight (visible : isBlank separator = false) (text : List Char)
    (trimmed : ∀ part ∈ trimLater (text.splitOn separator), trimRight part = part) :
    trimLater ((trimRight text).splitOn separator) = trimLater (text.splitOn separator) := by
  induction text using separatorInduction separator with
  | whole text absent =>
    have absentToo : separator ∉ trimRight text := fun held => absent (trimRight_subset text held)
    rw [List.splitOn_eq_singleton absent] at trimmed ⊢
    rw [List.splitOn_eq_singleton absentToo, trimLater, trimLater, trimLeft_trimRight,
      trimmed _ List.mem_cons_self]
  | split front back absent ih =>
    have others := List.splitOn_ne_nil separator back
    have othersToo := List.splitOn_ne_nil separator (trimRight back)
    rw [List.splitOn_append_cons_self_of_not_mem absent, trimLater_cons front others] at trimmed
    -- Trimming on the right takes place behind the separator, and leaves the first piece alone.
    have tail := ih fun part among => trimmed part (List.mem_cons_of_mem _ among)
    rw [trimRight_append_cons visible, List.splitOn_append_cons_self_of_not_mem absent,
      List.splitOn_append_cons_self_of_not_mem absent, trimLater_cons front othersToo,
      trimLater_cons front others, tail]

/-- Trimming a text on its right does not change its parts if these have no blanks there. -/
theorem parts_trimRight (visible : isBlank separator = false)
    (trimmed : ∀ part ∈ parts separator text, trimRight part = part) :
    parts separator (trimRight text) = parts separator text := by
  by_cases present : separator ∈ text
  · -- The first piece is not touched, and the others all stand behind a separator.
    obtain ⟨front, back, rfl, absent⟩ := List.eq_append_cons_of_mem present
    rw [parts_append_cons absent] at trimmed
    rw [trimRight_append_cons visible, parts_append_cons absent, parts_append_cons absent,
      trimLater_splitOn_trimRight visible back fun part among =>
        trimmed part (List.mem_cons_of_mem _ among)]
  · rw [parts_of_not_mem present] at trimmed
    rw [trimmed text List.mem_cons_self]

end Outside

section Marked

/-- A text ends as what stands behind a separator in it does, unless it ends with the separator. -/
theorem getLast?_of_append_cons {front back : List Char} (differs : separator ≠ c)
    (ends : (front ++ separator :: back).getLast? = some c) : back.getLast? = some c := by
  -- With nothing behind the separator the text ends with that.
  cases back with
  | nil => exact absurd (by simpa using ends) differs
  | cons next more => simpa using ends

/-- A text that ends with a question mark has a piece that does, also once all of them have been trimmed
as those behind a separator. -/
theorem exists_marked_later (differs : separator ≠ '?') (text : List Char)
    (marked : text.getLast? = some '?') :
    ∃ part ∈ trimLater (text.splitOn separator), part.getLast? = some '?' := by
  induction text using separatorInduction separator with
  | whole text absent =>
    rw [List.splitOn_eq_singleton absent, trimLater]
    -- A question mark is not trimmed away.
    obtain ⟨front, rfl⟩ := List.getLast?_eq_some_iff.1 marked
    refine ⟨_, List.mem_cons_self, ?_⟩
    rw [trimLeft_append_cons (by decide) front [], List.getLast?_concat]
  | split front back absent ih =>
    -- The question mark stands behind the first separator.
    obtain ⟨part, among, ends⟩ := ih (getLast?_of_append_cons differs marked)
    rw [List.splitOn_append_cons_self_of_not_mem absent,
      trimLater_cons front (List.splitOn_ne_nil separator back)]
    exact ⟨part, List.mem_cons_of_mem _ among, ends⟩

/-- A text that ends with a question mark has a part that does. -/
theorem exists_marked_part (differs : separator ≠ '?') (marked : text.getLast? = some '?') :
    ∃ part ∈ parts separator text, part.getLast? = some '?' := by
  -- The text ends with its last part, which stands behind the first separator if there is one.
  by_cases present : separator ∈ text
  · obtain ⟨front, back, rfl, absent⟩ := List.eq_append_cons_of_mem present
    obtain ⟨part, among, ends⟩ :=
      exists_marked_later differs back (getLast?_of_append_cons differs marked)
    rw [parts_append_cons absent]
    exact ⟨part, List.mem_cons_of_mem _ among, ends⟩
  · rw [parts_of_not_mem present]
    exact ⟨text, List.mem_cons_self, marked⟩

end Marked

section Spaced

variable {texts : List (List Char)}

/-- Texts with a separator between them, and blanks around it. -/
def spaced (separator : Char) (texts : List (List Char)) : List Char :=
  [' ', separator, ' '].intercalate texts

/-- A laid out text, and then others. -/
theorem spaced_cons (text : List Char) (others : texts ≠ []) :
    spaced separator (text :: texts) =
      (text ++ [' ']) ++ separator :: ' ' :: spaced separator texts := by
  -- Between two texts stands the separator with a blank on either side.
  rw [spaced, List.intercalate_cons_of_ne_nil others, spaced]
  simp

/-- Texts that are laid out behind a separator are cut apart again. -/
theorem trimLater_splitOn_spaced (nonempty : texts ≠ [])
    (absent : ∀ text ∈ texts, separator ∉ text) (differs : separator ≠ ' ') :
    trimLater ((' ' :: spaced separator texts).splitOn separator) = trimLater texts := by
  -- The blanks that go with a separator are the sides of the pieces that face it.
  induction texts with
  | nil => exact absurd rfl nonempty
  | cons text rest ih =>
    obtain ⟨head, tail⟩ := List.forall_mem_cons.1 absent
    by_cases last : rest = []
    · have alone : separator ∉ ' ' :: text := by simp [differs, head]
      rw [last, spaced, List.intercalate_singleton, List.splitOn_eq_singleton alone, trimLater,
        trimLater, trimLeft_cons_blank]
    · have alone : separator ∉ ' ' :: (text ++ [' ']) := by simp [differs, head]
      rw [spaced_cons text last, ← List.cons_append,
        List.splitOn_append_cons_self_of_not_mem alone,
        trimLater_cons _ (List.splitOn_ne_nil separator _), trimLater_cons text last,
        ih last tail, trimLeft_cons_blank, ← trimLeft_trimRight, trimRight_concat_blank,
        trimLeft_trimRight]

/-- Texts that are laid out with blanks around a separator are the parts between, once trimmed. -/
theorem parts_spaced (nonempty : texts ≠ []) (absent : ∀ text ∈ texts, separator ∉ text)
    (differs : separator ≠ ' ') : parts separator (spaced separator texts) = trimFacing texts := by
  -- Each text is split off at its separator, with a blank at its end that is trimmed away.
  cases texts with
  | nil => exact absurd rfl nonempty
  | cons text rest =>
    obtain ⟨head, tail⟩ := List.forall_mem_cons.1 absent
    by_cases last : rest = []
    · rw [last, spaced, List.intercalate_singleton, parts_of_not_mem head, trimFacing]
    · have alone : separator ∉ text ++ [' '] := by simp [differs, head]
      rw [spaced_cons text last, parts_append_cons alone, trimFacing_cons text last,
        trimRight_concat_blank, trimLater_splitOn_spaced last tail differs]

/-- Laid out texts hold no other characters than they do by themselves, the separator and blanks. -/
theorem not_mem_spaced (apart : c ≠ separator) (visible : c ≠ ' ')
    (absent : ∀ text ∈ texts, c ∉ text) : c ∉ spaced separator texts := by
  -- Each text is put in front of the others with nothing else between them.
  induction texts with
  | nil => simp [spaced]
  | cons text rest ih =>
    obtain ⟨head, tail⟩ := List.forall_mem_cons.1 absent
    by_cases last : rest = []
    · rwa [last, spaced, List.intercalate_singleton]
    · rw [spaced_cons text last]
      simp [head, visible, apart, ih tail]

end Spaced

section Reading

/-- A name that a shorthand can spell out: it has blanks at neither side, none of the signs that stand
between names, and no question mark behind it. -/
structure Legible (name : String) : Prop where
  trimmed : Trimmed name.toList
  noBar : '|' ∉ name.toList
  noAmpersand : '&' ∉ name.toList
  unmarked : name.toList.getLast? ≠ some '?'

/-- Names with ampersands between. -/
def quoteNames (names : List String) : List Char :=
  spaced '&' (names.map String.toList)

/-- Names with ampersands between, for each of several alternatives, and bars between these. -/
def quote (alternatives : List (List String)) : List Char :=
  spaced '|' (alternatives.map quoteNames)

/-- The conjuncts that names stand for. -/
def Alternative.ofNames (names : List String) : Alternative :=
  ⟨names.map fun name => ⟨name, 0⟩, 0⟩

/-- The alternatives that names stand for. -/
def Formula.ofNames (alternatives : List (List String)) : Formula :=
  ⟨alternatives.map Alternative.ofNames, 0⟩

variable {names : List String}

/-- A text whose parts are names is read as these names. -/
theorem alternative_of_parts (legible : ∀ name ∈ names, Legible name)
    (same : parts '&' text = names.map String.toList) :
    Alternative.ofText text = Alternative.ofNames names := by
  -- A question mark at the end would stand behind the last name.
  have unmarked : text.getLast? ≠ some '?' := by
    intro marked
    obtain ⟨part, among, ends⟩ := exists_marked_part (by decide : '&' ≠ '?') marked
    rw [same] at among
    obtain ⟨name, present, rfl⟩ := List.mem_map.1 among
    exact (legible name present).unmarked ends
  rw [Alternative.ofText, body_of_unmarked unmarked, marks_of_unmarked unmarked, same,
    Alternative.ofNames, List.map_map]
  congr 1
  refine List.map_congr_left fun name among => ?_
  have bare := (legible name among).unmarked
  rw [Function.comp_apply, Conjunct.ofText, body_of_unmarked bare, marks_of_unmarked bare,
    String.ofList_toList]

/-- Names with ampersands between are read back, also after the text has been trimmed. -/
theorem alternative_quoteNames (nonempty : names ≠ []) (legible : ∀ name ∈ names, Legible name) :
    Alternative.ofText (quoteNames names) = Alternative.ofNames names ∧
      Alternative.ofText (trimLeft (quoteNames names)) = Alternative.ofNames names ∧
      Alternative.ofText (trimRight (quoteNames names)) = Alternative.ofNames names ∧
      Alternative.ofText (trimRight (trimLeft (quoteNames names))) = Alternative.ofNames names := by
  -- The names have no blanks at their sides, so trimming takes away blanks of the layout alone.
  have visible : isBlank '&' = false := by decide
  have trimmed : ∀ text ∈ names.map String.toList, Trimmed text :=
    List.forall_mem_map.2 fun name among => (legible name among).trimmed
  have same : parts '&' (quoteNames names) = names.map String.toList := by
    rw [quoteNames, parts_spaced (by simpa using nonempty)
      (List.forall_mem_map.2 fun name among => (legible name among).noAmpersand) (by decide),
      trimFacing_of_trimmed trimmed]
  have left : parts '&' (trimLeft (quoteNames names)) = names.map String.toList := by
    rw [parts_trimLeft visible (same ▸ fun text among => (trimmed text among).1), same]
  have right : parts '&' (trimRight (quoteNames names)) = names.map String.toList := by
    rw [parts_trimRight visible (same ▸ fun text among => (trimmed text among).2), same]
  have both : parts '&' (trimRight (trimLeft (quoteNames names))) = names.map String.toList := by
    rw [parts_trimRight visible (left ▸ fun text among => (trimmed text among).2), left]
  exact ⟨alternative_of_parts legible same, alternative_of_parts legible left,
    alternative_of_parts legible right, alternative_of_parts legible both⟩

/-- Reading the parts is reading the pieces, if trimming does not change what they are read as. -/
theorem map_trimFacing {α : Type} (read : List Char → α)
    (alike : ∀ piece ∈ pieces, read (trimLeft piece) = read piece ∧
      read (trimRight piece) = read piece ∧ read (trimRight (trimLeft piece)) = read piece) :
    (trimFacing pieces).map read = pieces.map read := by
  -- Behind the first piece every one is trimmed on its left as well.
  have later : ∀ pieces, (∀ piece ∈ pieces, read (trimLeft piece) = read piece ∧
      read (trimRight piece) = read piece ∧ read (trimRight (trimLeft piece)) = read piece) →
      (trimLater pieces).map read = pieces.map read := by
    intro pieces
    induction pieces with
    | nil => exact fun _ => rfl
    | cons piece rest ih =>
      intro alike
      obtain ⟨⟨left, _, both⟩, tail⟩ := List.forall_mem_cons.1 alike
      by_cases last : rest = []
      · rw [last, trimLater, List.map_singleton, List.map_singleton, left]
      · rw [trimLater_cons piece last, List.map_cons, List.map_cons, both, ih tail]
  cases pieces with
  | nil => rfl
  | cons piece rest =>
    obtain ⟨⟨_, right, _⟩, tail⟩ := List.forall_mem_cons.1 alike
    by_cases last : rest = []
    · rw [last, trimFacing]
    · rw [trimFacing_cons piece last, List.map_cons, List.map_cons, right, later rest tail]

/-- What is quoted is read back. -/
theorem formula_quote {alternatives : List (List String)} (nonempty : alternatives ≠ [])
    (inhabited : ∀ names ∈ alternatives, names ≠ [])
    (legible : ∀ names ∈ alternatives, ∀ name ∈ names, Legible name) :
    Formula.ofText (quote alternatives) = Formula.ofNames alternatives := by
  -- Bars stand between the alternatives only, and trimming does not change how these are read.
  have noBar : ∀ text ∈ alternatives.map quoteNames, '|' ∉ text := by
    refine List.forall_mem_map.2 fun names among => ?_
    exact not_mem_spaced (by decide) (by decide)
      (List.forall_mem_map.2 fun name present => (legible names among name present).noBar)
  have split : parts '|' (quote alternatives) = trimFacing (alternatives.map quoteNames) :=
    parts_spaced (by simpa using nonempty) noBar (by decide)
  have reads : (parts '|' (quote alternatives)).map Alternative.ofText =
      alternatives.map Alternative.ofNames := by
    rw [split, map_trimFacing, List.map_map]
    · exact List.map_congr_left fun names among =>
        (alternative_quoteNames (inhabited names among) (legible names among)).1
    · refine List.forall_mem_map.2 fun names among => ?_
      obtain ⟨plain, left, right, both⟩ :=
        alternative_quoteNames (inhabited names among) (legible names among)
      exact ⟨left.trans plain.symm, right.trans plain.symm, both.trans plain.symm⟩
  have unmarked : (quote alternatives).getLast? ≠ some '?' := by
    intro marked
    obtain ⟨part, among, ends⟩ := exists_marked_part (by decide : '|' ≠ '?') marked
    -- The part is read as an alternative without question marks, so there is none behind it.
    have read := List.mem_map_of_mem among (f := Alternative.ofText)
    rw [reads] at read
    obtain ⟨names, _, same⟩ := List.mem_map.1 read
    obtain ⟨front, rfl⟩ := List.getLast?_eq_some_iff.1 ends
    have counted : 0 = Shorthand.marks (front ++ ['?']) := congrArg Alternative.marks same
    rw [marks_concat] at counted
    cases counted
  rw [Formula.ofText, body_of_unmarked unmarked, marks_of_unmarked unmarked, reads,
    Formula.ofNames]

end Reading

end Shorthand

end Conform
