import Mathlib.Data.List.Forall2

/-! What sequences of computations and runs over lists come to, when any computation may fail. -/

namespace Conform

/-- A sequence of computations gives a result exactly when both of them do. -/
theorem bind_eq_ok_iff {ε α β : Type} {first : Except ε α} {next : α → Except ε β} {result : β} :
    first >>= next = .ok result ↔ ∃ middle, first = .ok middle ∧ next middle = .ok result := by
  cases first <;> simp [Bind.bind, Except.bind]

/-- A sequence of computations fails exactly when the first does, or the second after it. -/
theorem bind_eq_error_iff {ε α β : Type} {first : Except ε α} {next : α → Except ε β} {error : ε} :
    first >>= next = .error error ↔
      first = .error error ∨ ∃ middle, first = .ok middle ∧ next middle = .error error := by
  cases first <;> simp [Bind.bind, Except.bind]

/-- A computation that wraps a result up fails exactly if there is no result. -/
theorem bind_pure_eq_error_iff {ε α β : Type} {first : Except ε α} {wrap : α → β} {error : ε} :
    (first >>= fun made => pure (wrap made)) = .error error ↔ first = .error error := by
  simp [bind_eq_error_iff, Pure.pure, Except.pure]

/-- A computation that wraps a result up succeeds exactly if the result is there. -/
theorem bind_pure_eq_ok_iff {ε α β : Type} {first : Except ε α} {wrap : α → β} {result : β} :
    (first >>= fun made => pure (wrap made)) = .ok result ↔
      ∃ made, first = .ok made ∧ wrap made = result := by
  simp [bind_eq_ok_iff, Pure.pure, Except.pure]

/-- Wording errors anew does not make a result. -/
theorem mapError_eq_ok_iff {ε ε' α : Type} {word : ε → ε'} {run : Except ε α} {result : α} :
    run.mapError word = .ok result ↔ run = .ok result := by
  cases run <;> simp [Except.mapError]

/-- Running over a list gives the results of its elements in their order. -/
theorem mapM_eq_ok_iff {ε α β : Type} {step : α → Except ε β} {items : List α} {results : List β} :
    items.mapM step = .ok results ↔
      List.Forall₂ (fun item result => step item = .ok result) items results := by
  -- The run succeeds on the first element, and then on the rest.
  induction items generalizing results with
  | nil => cases results <;> simp [Pure.pure, Except.pure]
  | cons item rest ih =>
    simp only [List.mapM_cons, bind_eq_ok_iff, ih, List.forall₂_cons_left_iff, Pure.pure,
      Except.pure, Except.ok.injEq]
    -- Both sides name the first result and the others, in a different order.
    constructor
    · intro ran
      obtain ⟨result, found, results, others, rfl⟩ := ran
      exact ⟨result, results, found, others, rfl⟩
    · intro related
      obtain ⟨result, results, found, others, rfl⟩ := related
      exact ⟨result, found, results, others, rfl⟩

/-- A run over a list that fails has failed on one of its elements. -/
theorem exists_error_of_mapM {ε α β : Type} {step : α → Except ε β} {items : List α} {error : ε}
    (failed : items.mapM step = .error error) : ∃ item ∈ items, step item = .error error := by
  -- Either the first element fails or one of the others does.
  induction items with
  | nil => cases failed
  | cons item rest ih =>
    rw [List.mapM_cons, bind_eq_error_iff] at failed
    rcases failed with failed | ⟨_, _, failed⟩
    · exact ⟨item, List.mem_cons_self, failed⟩
    · obtain ⟨later, among, found⟩ := ih (bind_pure_eq_error_iff.1 failed)
      exact ⟨later, List.mem_cons_of_mem _ among, found⟩

/-- Running on what may be absent gives a result of it, or nothing where it is absent. -/
theorem option_mapM_eq_ok_iff {ε α β : Type} {step : α → Except ε β} {item : Option α}
    {result : Option β} :
    item.mapM step = .ok result ↔
      Option.Rel (fun item result => step item = .ok result) item result := by
  -- Where there is nothing, the run does nothing, and elsewhere it is the run of the step.
  cases item with
  | none =>
    simp only [Option.mapM_none, Pure.pure, Except.pure, Except.ok.injEq]
    constructor
    · intro same
      exact same ▸ .none
    · intro related
      cases related
      rfl
  -- The result is that of the step, if the step has one.
  | some item =>
    cases ran : step item with
    | error error =>
      constructor
      · intro mapped
        simp [Option.mapM_some, ran, Functor.map, Except.map] at mapped
      · intro related
        cases related with
        | some given => simp [ran] at given
    | ok made =>
      simp only [Option.mapM_some, ran, Functor.map, Except.map, Except.ok.injEq]
      constructor
      · intro same
        exact same ▸ .some ran
      · intro related
        cases related with
        | some given =>
          rw [ran, Except.ok.injEq] at given
          rw [given]

/-- Running over a list comes to the same under steps that agree on its elements. -/
theorem mapM_congr {ε α β : Type} {step other : α → Except ε β} {items : List α}
    (same : ∀ item ∈ items, step item = other item) : items.mapM step = items.mapM other := by
  -- The elements are gone through in the same order.
  induction items with
  | nil => rfl
  | cons item rest ih =>
    have others := ih fun later among => same later (List.mem_cons_of_mem _ among)
    simp only [List.mapM_cons, same item List.mem_cons_self, others]

/-- Mapping the results of a run over a list is running over a list whose steps come to the mapped
results. -/
theorem map_mapM {ε α β γ δ : Type} {step : α → Except ε β} {other : δ → Except ε γ}
    {image : β → γ} {items : List α} {others : List δ}
    (each : List.Forall₂ (fun item other' => (step item).map image = other other') items others) :
    (items.mapM step).map (List.map image) = others.mapM other := by
  induction each with
  | nil => rfl
  | @cons item other' rest others head _ ih =>
    rw [List.mapM_cons, List.mapM_cons, ← head, ← ih]
    -- The first step fails or not, and so does the run over the rest.
    cases step item with
    | error error => rfl
    | ok result => cases rest.mapM step <;> rfl

/-- A run over a list comes to the same results under a step that comes to the same result wherever
the other one does. -/
theorem mapM_of_mapM {ε α β : Type} {step other : α → Except ε β} {items : List α}
    {results : List β}
    (same : ∀ item result, step item = .ok result → other item = .ok result)
    (ran : items.mapM step = .ok results) : items.mapM other = .ok results :=
  mapM_eq_ok_iff.2 ((mapM_eq_ok_iff.1 ran).imp same)

/-- Runs over two lists, one after the other, give the results of both. -/
theorem mapM_append_of_mapM {ε α β : Type} {step : α → Except ε β} {front back : List α}
    {first second : List β} (ran : front.mapM step = .ok first)
    (ranToo : back.mapM step = .ok second) :
    (front ++ back).mapM step = .ok (first ++ second) := by
  -- The second run begins where the first one ends.
  rw [List.mapM_append, ran, ranToo]
  rfl

/-- If every element has a related one, the list has a related list. -/
theorem exists_forall₂ {α β : Type} {relation : α → β → Prop} {items : List α}
    (each : ∀ item ∈ items, ∃ result, relation item result) :
    ∃ results, List.Forall₂ relation items results := by
  -- A related element is chosen for the first, and a related list for the rest.
  induction items with
  | nil => exact ⟨[], .nil⟩
  | cons item rest ih =>
    obtain ⟨result, head⟩ := each item (by simp)
    obtain ⟨results, tail⟩ := ih fun other among => each other (by simp [among])
    exact ⟨result :: results, .cons head tail⟩

/-- If every element is the image of something, the list is the image of a list. -/
theorem exists_map_eq {α β : Type} {good : β → Prop} {image : β → α} {items : List α}
    (each : ∀ item ∈ items, ∃ origin, good origin ∧ image origin = item) :
    ∃ origins : List β, (∀ origin ∈ origins, good origin) ∧ origins.map image = items := by
  -- The origins are picked one by one.
  induction items with
  | nil => exact ⟨[], by simp, rfl⟩
  | cons item rest ih =>
    obtain ⟨origin, goodOrigin, rfl⟩ := each item (by simp)
    obtain ⟨origins, goodOrigins, rfl⟩ := ih fun other among => each other (by simp [among])
    exact ⟨origin :: origins, List.forall_mem_cons.2 ⟨goodOrigin, goodOrigins⟩, rfl⟩

/-- In related lists every element of the first has its related one. -/
theorem exists_related {α β : Type} {relation : α → β → Prop} {items : List α} {results : List β}
    (related : List.Forall₂ relation items results) :
    ∀ item ∈ items, ∃ result ∈ results, relation item result := by
  -- The element is the first, or its related one is found further on.
  induction related with
  | nil => simp
  | cons head tail ih =>
    intro item among
    rcases List.mem_cons.1 among with rfl | later
    · exact ⟨_, List.mem_cons_self, head⟩
    · obtain ⟨result, found, holds⟩ := ih item later
      exact ⟨result, List.mem_cons_of_mem _ found, holds⟩

/-- A list related to two lists in a row divides like them. -/
theorem exists_append_of_forall₂ {α β : Type} {relation : α → β → Prop} {front back : List α}
    {results : List β} (related : List.Forall₂ relation (front ++ back) results) :
    ∃ first second, results = first ++ second ∧ List.Forall₂ relation front first ∧
      List.Forall₂ relation back second := by
  -- The first part ends where the front does.
  induction front generalizing results with
  | nil => exact ⟨[], results, rfl, .nil, related⟩
  | cons item rest ih =>
    obtain ⟨result, others, head, tail, rfl⟩ := List.forall₂_cons_left_iff.1 related
    obtain ⟨first, second, rfl, before, after⟩ := ih tail
    exact ⟨result :: first, second, rfl, .cons head before, after⟩

/-- In related lists every place of the first has the related element at the same place of the second. -/
theorem exists_getElem?_of_forall₂ {α β : Type} {relation : α → β → Prop} {items : List α}
    {results : List β} (related : List.Forall₂ relation items results) {place : Nat} {item : α}
    (held : items[place]? = some item) :
    ∃ result, results[place]? = some result ∧ relation item result := by
  -- Both lists lose their first elements as the place is counted down.
  induction related generalizing place with
  | nil => simp at held
  | cons head tail ih =>
    cases place with
    | zero =>
      obtain rfl : _ = item := by simpa using held
      exact ⟨_, rfl, head⟩
    | succ place => exact ih (by simpa using held)

/-- Lists of one length that are related wherever both hold something are related at every place. -/
theorem rel_getElem? {α : Type} {related : α → α → Prop} {items others : List α}
    (length : others.length = items.length)
    (each : ∀ (place : Nat) old new, items[place]? = some old → others[place]? = some new →
      related old new) (place : Nat) : Option.Rel related items[place]? others[place]? := by
  -- A place lies inside both lists or past the end of both.
  by_cases inside : place < items.length
  · have held := List.getElem?_eq_getElem inside
    have given := List.getElem?_eq_getElem (show place < others.length by omega)
    rw [held, given]
    exact .some (each place _ _ held given)
  · rw [List.getElem?_eq_none (by omega), List.getElem?_eq_none (by omega)]
    exact .none

end Conform
