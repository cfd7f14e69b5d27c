import Conform.Schema.Build
import Conform.Text.Blank

/-! Shorthand texts name a type, mark it optional with a question mark, or combine types with bars and
ampersands. -/

namespace Conform

namespace Shorthand

/-- The pieces of a text between the separators in it. -/
def pieces (separator : Char) : List Char → List (List Char)
  | [] => [[]]
  | c :: rest =>
    if c = separator then [] :: pieces separator rest
    else
      match pieces separator rest with
      -- There is always a piece, so this case does not occur.
      | [] => [[c]]
      | piece :: others => (c :: piece) :: others

/-- The pieces of a text without the blanks on those of their sides that face a separator. -/
def fragments (separator : Char) (text : List Char) : List (List Char) :=
  -- Blanks at either end of the whole text face no separator and stay.
  let parts := pieces separator text
  parts.mapIdx fun place part =>
    let part := if 0 < place then trimLeft part else part
    if place + 1 < parts.length then trimRight part else part

/-- No piece is longer than the text without its separators. -/
theorem length_add_count_le (separator : Char) (text : List Char) :
    ∀ piece ∈ pieces separator text, piece.length + text.count separator ≤ text.length := by
  -- Each character is a separator, or it makes the first piece longer.
  induction text with
  | nil => simp [pieces]
  | cons c rest ih =>
    have counted := List.count_le_length (a := separator) (l := rest)
    by_cases same : c = separator
    · subst same
      intro piece found
      simp only [pieces, if_pos, List.mem_cons] at found
      rcases found with rfl | later
      · simp; omega
      · have := ih piece later
        simp; omega
    · intro piece found
      simp only [pieces, if_neg same] at found
      have skipped : (c :: rest).count separator = rest.count separator := by
        simp [same]
      rw [skipped]
      cases split : pieces separator rest with
      | nil =>
        simp only [split, List.mem_singleton] at found
        subst found
        simp; omega
      | cons first others =>
        rw [split] at ih
        simp only [split, List.mem_cons] at found
        rcases found with rfl | later
        · have := ih first (by simp)
          simp; omega
        · have := ih piece (by simp [later])
          simp; omega

/-- Trimming on the left never lengthens. -/
theorem length_trimLeft_le (text : List Char) : (trimLeft text).length ≤ text.length :=
  (List.dropWhile_sublist _).length_le

/-- Trimming on the right never lengthens. -/
theorem length_trimRight_le (text : List Char) : (trimRight text).length ≤ text.length := by
  simpa [trimRight] using (List.dropWhile_sublist isBlank (l := text.reverse)).length_le

/-- A text that has a separator is longer than each of its fragments. -/
theorem length_fragment_lt {separator : Char} {text : List Char} (present : separator ∈ text) :
    ∀ fragment ∈ fragments separator text, fragment.length < text.length := by
  -- The separator is missing from every piece, and trimming makes none longer.
  intro fragment found
  simp only [fragments, List.mem_mapIdx] at found
  obtain ⟨place, inside, trimmed⟩ := found
  have bound := length_add_count_le separator text _ (List.getElem_mem inside)
  have positive := List.count_pos_iff.2 present
  have left := length_trimLeft_le (pieces separator text)[place]
  have right := length_trimRight_le (pieces separator text)[place]
  have both := length_trimRight_le (trimLeft (pieces separator text)[place])
  subst trimmed
  split <;> split <;> omega

end Shorthand

/-- Builds the schema of a shorthand. A final question mark is looked for first, then bars, then
ampersands, and each part is a shorthand again; what has none of them is the name of a type. -/
def Scope.shorthand (scope : Scope) (text : List Char) (defaults : Option Defaults) : Built :=
  if _ : text.getLast? = some '?' then do
    -- The default is meant for the schema before the mark; the optional one takes none.
    scope.optional (← scope.shorthand text.dropLast defaults) none
  else if _ : '|' ∈ text then do
    -- Alternatives have no default of their own: the union carries it.
    let alternatives ← (Shorthand.fragments '|' text).attach.mapM fun part =>
      scope.shorthand part.1 none
    return scope.union alternatives defaults
  else if _ : '&' ∈ text then do
    let parts ← (Shorthand.fragments '&' text).attach.mapM fun part =>
      scope.shorthand part.1 none
    return scope.intersection parts defaults
  -- No separator is left, so the text is looked up as it stands.
  else scope.scalar (String.ofList text) defaults
termination_by text.length
decreasing_by
  · cases text with
    | nil => simp_all
    | cons c rest => simp
  · exact Shorthand.length_fragment_lt ‹_› _ part.2
  · exact Shorthand.length_fragment_lt ‹_› _ part.2

end Conform
