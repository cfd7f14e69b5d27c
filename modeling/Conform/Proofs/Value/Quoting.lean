import Conform.Value.Text

/-! A value has a text unless that would have to quote a date of a year that has no mail text. -/

namespace Conform

/-- Whether the year of an instant is one that mail texts can show. -/
def Instant.InMailYears (time : Instant) : Prop :=
  0 ≤ time.date.year ∧ time.date.year ≤ 9999

namespace Value

/-- A date quotes its instant, and an array quotes what its elements quote. -/
inductive Quotes (instant : Instant) : Value → Prop where
  | date : Quotes instant (.date (some instant))
  | element {item : Value} {items : List Value} (among : item ∈ items)
      (quotes : Quotes instant item) : Quotes instant (.array items)

mutual

/-- A value that quotes only dates of mail years has a text. -/
theorem exists_text : ∀ value : Value,
    (∀ instant, value.Quotes instant → instant.InMailYears) → ∃ text, value.toText? = some text
  | array items, writable => by
    -- Only arrays pass on the question, and only dates answer it in more than one way.
    obtain ⟨texts, given⟩ := exists_itemTexts items fun item among instant quotes =>
      writable instant (.element among quotes)
    exact ⟨_, by rw [toText?, given]; rfl⟩
  | date (some instant), writable => ⟨_, if_pos (writable instant .date)⟩
  | date none, _ => ⟨_, rfl⟩
  | undefined, _ | null, _ | bool _, _ | number _, _ | string _, _ | symbol _, _ => ⟨_, rfl⟩
  | object _, _ | arguments _, _ | regexp _ _, _ | error _ _, _ | map _, _ | set _, _ => ⟨_, rfl⟩
  | buffer _, _ | typedArray _, _ | function _, _ | host _, _ => ⟨_, rfl⟩

/-- Elements that quote only dates of mail years have texts. -/
theorem exists_itemTexts : ∀ items : List Value,
    (∀ item ∈ items, ∀ instant, item.Quotes instant → instant.InMailYears) →
      ∃ texts, itemTexts? items = some texts
  | [], _ => ⟨[], rfl⟩
  | item :: rest, writable => by
    obtain ⟨text, given⟩ := exists_text item (writable item List.mem_cons_self)
    obtain ⟨texts, others⟩ := exists_itemTexts rest fun later among =>
      writable later (List.mem_cons_of_mem _ among)
    -- What is undefined or null leaves its place empty, and anything else is asked for its text.
    cases item <;> simp [itemTexts?, given, others]

end

/-- An element without a text leaves the elements without texts. -/
theorem itemTexts?_eq_none {items : List Value} {item : Value} (among : item ∈ items)
    (unwritten : item.toText? = none) : itemTexts? items = none := by
  induction items with
  | nil => cases among
  | cons first rest ih =>
    rcases List.mem_cons.1 among with rfl | later
    · -- What is undefined or null is left empty, but it has a text all the same.
      cases item with
      | undefined | null => cases unwritten
      | _ => simp [itemTexts?, unwritten]
    · cases first <;> simp [itemTexts?, ih later]

/-- A value has no text exactly if it quotes a date of another than a mail year. -/
theorem toText?_eq_none_iff (value : Value) :
    value.toText? = none ↔ ∃ instant, value.Quotes instant ∧ ¬ instant.InMailYears := by
  -- Without such a date there would be a text, and with one the arrays around it have none either.
  constructor
  · intro unwritten
    refine Classical.byContradiction fun writable => ?_
    obtain ⟨text, given⟩ := value.exists_text fun instant quotes =>
      Classical.byContradiction fun outside => writable ⟨instant, quotes, outside⟩
    rw [given] at unwritten
    cases unwritten
  · intro ⟨instant, quotes, outside⟩
    induction quotes with
    | date => exact if_neg outside
    | element among _ ih => rw [toText?, itemTexts?_eq_none among ih, Option.map_none]

end Value

end Conform
