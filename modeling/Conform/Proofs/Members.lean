import Conform.Members
import Mathlib.Data.List.Basic

/-! Members with distinct names are determined by their names in order and what each name holds. -/

namespace Conform.Members

variable {α : Type}

/-- The names are the first halves of the pairs. -/
theorem names_eq_map (members : Members α) : members.names = members.map Prod.fst := by
  -- Both go along the members from the front.
  induction members with
  | nil => rfl
  | cons head rest ih =>
    obtain ⟨held, value⟩ := head
    simp [names, ih]

/-- The names of pairs one after another. -/
@[simp] theorem names_append (first second : Members α) :
    names (first ++ second) = first.names ++ second.names := by
  simp [names_eq_map]

/-- Values that are mapped keep their names. -/
@[simp] theorem names_map {β : Type} (image : α → β) (members : Members α) :
    names (members.map fun member => (member.1, image member.2)) = members.names := by
  simp [names_eq_map]

/-- Members that are left out take their names with them. -/
theorem names_filter (keep : String → Bool) (members : Members α) :
    names (members.filter fun member => keep member.1) = members.names.filter keep := by
  -- Whether a member is kept depends on its name alone.
  rw [names_eq_map, names_eq_map, List.filter_map]
  rfl

/-- A name that is kept reads as it did before others were left out. -/
theorem get?_filter {keep : String → Bool} {name : String} (kept : keep name = true)
    (members : Members α) :
    get? (members.filter fun member => keep member.1) name = members.get? name := by
  induction members with
  | nil => rfl
  | cons head rest ih =>
    obtain ⟨held, value⟩ := head
    -- A member that is left out has another name.
    cases left : keep held with
    | true => simp [left, get?, ih]
    | false =>
      have differs : name ≠ held := fun same => by simp [← same, kept] at left
      simp [left, get?, differs, ih]

/-- Under a name stands the image of what was there. -/
@[simp] theorem get?_map {β : Type} (image : α → β) (members : Members α) (name : String) :
    get? (members.map fun member => (member.1, image member.2)) name =
      (members.get? name).map image := by
  -- The names stay where they are, so the same member is found.
  induction members with
  | nil => rfl
  | cons head rest ih =>
    obtain ⟨held, value⟩ := head
    by_cases same : name = held <;> simp [get?, same, ih]

/-- Values given by name stand under their names. -/
theorem names_tabulated (given : String → α) (names : List String) :
    Members.names (names.map fun name => (name, given name)) = names := by
  simp [names_eq_map, Function.comp_def]

/-- Where values are given by name, a name reads as its value if it is there. -/
theorem get?_tabulated (given : String → α) (names : List String) (name : String) :
    get? (names.map fun name => (name, given name)) name =
      if name ∈ names then some (given name) else none := by
  -- The name is found where it stands first, and its value depends on nothing else.
  induction names with
  | nil => rfl
  | cons first rest ih =>
    by_cases same : name = first
    · simp [get?, same]
    · simp [get?, same, ih]

/-- A name that stands before a value is among the names. -/
theorem mem_names {members : Members α} {name : String} {value : α}
    (held : (name, value) ∈ members) : name ∈ members.names := by
  -- The names are the first halves of the pairs.
  rw [names_eq_map]
  exact List.mem_map.2 ⟨(name, value), held, rfl⟩

/-- Each name stands before some value. -/
theorem exists_of_mem_names {members : Members α} {name : String}
    (held : name ∈ members.names) : ∃ value, (name, value) ∈ members := by
  -- A name is the first half of some pair.
  rw [names_eq_map] at held
  obtain ⟨pair, found, rfl⟩ := List.mem_map.1 held
  exact ⟨pair.2, found⟩

/-- A name reads as nothing exactly when it is not among the names. -/
theorem get?_eq_none_iff (members : Members α) (name : String) :
    members.get? name = none ↔ name ∉ members.names := by
  -- Being held means both: to read as something, and to be among the names.
  rw [← contains_iff, contains]
  simp

/-- A name that is not among the names reads as nothing. -/
theorem get?_of_not_mem {members : Members α} {name : String} (absent : name ∉ members.names) :
    members.get? name = none :=
  (get?_eq_none_iff members name).2 absent

/-- There are as many names as there are members. -/
theorem length_names (members : Members α) : members.names.length = List.length members := by
  rw [names_eq_map, List.length_map]

/-- Members of distinct names that are related under every name have the same names. -/
theorem perm_names_of_rel {related : α → α → Prop} {members others : Members α}
    (distinct : members.names.Nodup) (distinctToo : others.names.Nodup)
    (each : ∀ name, Option.Rel related (members.get? name) (others.get? name)) :
    members.names.Perm others.names := by
  -- The names are those that read as something.
  refine (List.perm_ext_iff_of_nodup distinct distinctToo).2 fun name => ?_
  have read := each name
  rw [← contains_iff, ← contains_iff, contains, contains]
  generalize members.get? name = old at read ⊢
  generalize others.get? name = new at read ⊢
  cases read <;> rfl

/-- Members of the same names that are related wherever both hold something are related under every
name. -/
theorem rel_get? {related : α → α → Prop} {members others : Members α}
    (names : members.names.Perm others.names)
    (each : ∀ name old new, members.get? name = some old → others.get? name = some new →
      related old new) (name : String) : Option.Rel related (members.get? name) (others.get? name) := by
  -- A name is held by both or by neither.
  by_cases named : name ∈ members.names
  · obtain ⟨old, held⟩ := Option.isSome_iff_exists.1 ((contains_iff members name).2 named)
    have namedToo := names.mem_iff.1 named
    obtain ⟨new, given⟩ := Option.isSome_iff_exists.1 ((contains_iff others name).2 namedToo)
    rw [held, given]
    exact .some (each name old new held given)
  · rw [get?_of_not_mem named, get?_of_not_mem fun other => named (names.mem_iff.2 other)]
    exact .none

/-- A name that reads the same in two places is held in both or in neither. -/
theorem mem_names_congr {first second : Members α} {name : String}
    (same : first.get? name = second.get? name) : name ∈ first.names ↔ name ∈ second.names := by
  rw [← contains_iff, ← contains_iff, contains, contains, same]

/-- Two objects answer alike whether they hold a name that is among the names of both or of neither. -/
theorem contains_congr {first second : Members α} {name : String}
    (same : name ∈ first.names ↔ name ∈ second.names) :
    first.contains name = second.contains name := by
  rw [Bool.eq_iff_iff, contains_iff, contains_iff, same]

/-- What a name reads as stands behind it. -/
theorem mem_of_get? {members : Members α} {name : String} {value : α}
    (found : members.get? name = some value) : (name, value) ∈ members := by
  -- Reading stops at the first pair of the name, and otherwise looks further.
  induction members with
  | nil => simp [get?] at found
  | cons head rest ih =>
    obtain ⟨held, old⟩ := head
    by_cases same : name = held
    · simp only [get?, if_pos same, Option.some.injEq] at found
      simp [same, found]
    · simp only [get?, if_neg same] at found
      exact List.mem_cons_of_mem _ (ih found)

/-- With distinct names, what stands behind a name is what it reads as. -/
theorem get?_of_mem {members : Members α} (distinct : members.names.Nodup) {name : String}
    {value : α} (held : (name, value) ∈ members) : members.get? name = some value := by
  -- Reading can stop no earlier than at the pair itself, since no other pair has its name.
  induction members with
  | nil => simp at held
  | cons head rest ih =>
    obtain ⟨first, old⟩ := head
    obtain ⟨fresh, distinctRest⟩ := List.nodup_cons.1 distinct
    rcases List.mem_cons.1 held with same | later
    · cases same
      simp [get?]
    · -- A later pair cannot have the first name again.
      have differs : name ≠ first := by
        intro same
        exact fresh (same ▸ mem_names later)
      simpa [get?, differs] using ih distinctRest later

/-- With distinct names, a name stands at one place only. -/
theorem split_unique {before after front back : Members α} {name : String} {value other : α}
    (distinct : (names (before ++ (name, value) :: after)).Nodup)
    (same : before ++ (name, value) :: after = front ++ (name, other) :: back) :
    before = front ∧ value = other ∧ after = back := by
  obtain ⟨-, later, apart⟩ := List.nodup_append.1 (names_append before _ ▸ distinct)
  -- The name stands at its place, so it stands neither before nor after it.
  have notBefore : (name, other) ∉ before := by
    intro held
    exact apart name (mem_names held) name (by simp [names]) rfl
  have notAfter : (name, other) ∉ after := by
    intro held
    exact (List.nodup_cons.1 later).1 (mem_names held)
  obtain ⟨sameBefore, samePair, sameAfter⟩ :=
    (List.append_cons_inj_of_notMem notBefore notAfter).1 same
  exact ⟨sameBefore, congrArg Prod.snd samePair, sameAfter⟩

/-- What is there after a pair has been put in was there before, unless it is the pair. -/
theorem mem_insert {members : Members α} {name : String} {value : α} {pair : String × α}
    (held : pair ∈ insert name value members) : pair = (name, value) ∨ pair ∈ members := by
  induction members with
  | nil => exact .inl (List.mem_singleton.1 held)
  | cons head rest ih =>
    obtain ⟨first, old⟩ := head
    rw [insert] at held
    split at held
    · -- The pair takes the place of the first one.
      rename_i same
      rw [← same] at held
      rcases List.mem_cons.1 held with new | later
      · exact .inl new
      · exact .inr (List.mem_cons_of_mem _ later)
    · rcases List.mem_cons.1 held with here | later
      · exact .inr (here ▸ List.mem_cons_self)
      · rcases ih later with new | old
        · exact .inl new
        · exact .inr (List.mem_cons_of_mem _ old)

/-- What is there after pairs have been put in was there before, unless it is one of the pairs. -/
theorem mem_insertAll {pairs : List (String × α)} {members : Members α} {pair : String × α}
    (held : pair ∈ insertAll members pairs) : pair ∈ members ∨ pair ∈ pairs := by
  -- Induct over the pairs, which go into ever larger members.
  induction pairs generalizing members with
  | nil => exact .inl held
  | cons first rest ih =>
    rcases @ih (insert first.1 first.2 members) held with before | later
    · rcases mem_insert before with new | old
      · exact .inr (new ▸ List.mem_cons_self)
      · exact .inl old
    · exact .inr (List.mem_cons_of_mem _ later)

/-- Distinct names in the same order with the same values make the same members. -/
theorem ext_get? {first second : Members α} (distinct : first.names.Nodup)
    (sameNames : first.names = second.names)
    (sameValues : ∀ name ∈ first.names, first.get? name = second.get? name) :
    first = second := by
  -- The two run in step, since their names do.
  induction first generalizing second with
  | nil =>
    cases second with
    | nil => rfl
    | cons head rest => simp [names] at sameNames
  | cons head rest ih =>
    cases second with
    | nil => simp [names] at sameNames
    | cons head' rest' =>
      obtain ⟨name, value⟩ := head
      obtain ⟨name', value'⟩ := head'
      simp only [names, List.cons.injEq] at sameNames
      obtain ⟨rfl, sameRest⟩ := sameNames
      obtain ⟨fresh, distinctRest⟩ := List.nodup_cons.1 distinct
      have sameHead : value = value' := by
        simpa [get?] using sameValues name (by simp [names])
      -- The first name does not occur again, so it hides nothing of the rest.
      have tail : rest = rest' := ih distinctRest sameRest fun other held => by
        have differs : other ≠ name := fun same => fresh (same ▸ held)
        simpa [get?, differs] using sameValues other (by simp [names, held])
      rw [sameHead, tail]

/-- Members of distinct names that hold the same under each name differ in order alone. -/
theorem perm_of_get?_eq {first second : Members α} (distinct : first.names.Nodup)
    (distinctToo : second.names.Nodup) (same : ∀ name, first.get? name = second.get? name) :
    first.Perm second := by
  have once : ∀ {members : Members α}, members.names.Nodup → List.Nodup members := by
    intro members distinct
    rw [names_eq_map] at distinct
    exact List.Pairwise.of_map Prod.fst
      (fun _ _ differs same => differs (congrArg Prod.fst same)) distinct
  refine (List.perm_ext_iff_of_nodup (once distinct) (once distinctToo)).2 fun pair => ?_
  obtain ⟨name, value⟩ := pair
  -- A pair stands among members of distinct names if its name reads as its value.
  constructor
  · intro held
    exact mem_of_get? (same name ▸ get?_of_mem distinct held)
  · intro held
    exact mem_of_get? ((same name).symm ▸ get?_of_mem distinctToo held)

/-- Under each name, members of distinct names hold the same in any order. -/
theorem get?_eq_of_perm {first second : Members α} (distinct : first.names.Nodup)
    (perm : List.Perm first second) (name : String) : first.get? name = second.get? name := by
  have distinctToo : second.names.Nodup := by
    rw [names_eq_map] at distinct ⊢
    exact (perm.map Prod.fst).nodup distinct
  -- A value is read under a name if the pair of the two is among the members.
  refine Option.ext fun value => ⟨fun found => ?_, fun found => ?_⟩
  · exact get?_of_mem distinctToo (perm.mem_iff.1 (mem_of_get? found))
  · exact get?_of_mem distinct (perm.mem_iff.2 (mem_of_get? found))

/-- Putting in pairs of distinct names reads back each of them and leaves the other names alone. -/
theorem get?_insertAll {pairs : List (String × α)} (distinct : (names pairs).Nodup)
    (members : Members α) (name : String) :
    (insertAll members pairs).get? name = (get? pairs name).or (members.get? name) := by
  -- Induct over the pairs, which go into ever larger members.
  induction pairs generalizing members with
  | nil => simp [insertAll, get?]
  | cons head rest ih =>
    obtain ⟨first, value⟩ := head
    obtain ⟨fresh, distinctRest⟩ := List.nodup_cons.1 distinct
    show (insertAll (insert first value members) rest).get? name = _
    rw [ih distinctRest]
    -- The first pair is what its own name reads as, for no later pair overwrites it.
    by_cases same : name = first
    · subst same
      simp [get?, get?_of_not_mem fresh, get?_insert_self]
    · simp [get?, same, get?_insert_of_ne same]

/-- Putting in pairs of distinct names adds the new ones at the end, in their order. -/
theorem names_insertAll {pairs : List (String × α)} (distinct : (names pairs).Nodup)
    (members : Members α) :
    (insertAll members pairs).names =
      members.names ++ (names pairs).filter fun name => !members.contains name := by
  -- Induct over the pairs, which go into ever larger members.
  induction pairs generalizing members with
  | nil => simp [insertAll, names]
  | cons head rest ih =>
    obtain ⟨first, value⟩ := head
    obtain ⟨fresh, distinctRest⟩ := List.nodup_cons.1 distinct
    show (insertAll (insert first value members) rest).names = _
    rw [ih distinctRest]
    -- The later names differ from the first, so its insertion does not make any of them held.
    have untouched : (names rest).filter (fun name => !(insert first value members).contains name) =
        (names rest).filter fun name => !members.contains name := by
      refine List.filter_congr fun name held => ?_
      have differs : name ≠ first := fun same => fresh (same ▸ held)
      simp [contains, get?_insert_of_ne differs]
    rw [untouched]
    -- What remains is the first name itself, which is new or was there.
    by_cases held : first ∈ members.names
    · simp [names, names_insert_of_mem value held, (contains_iff members first).2 held]
    · have absent : members.contains first = false := by
        simpa [← contains_iff] using held
      simp [names, names_insert_of_not_mem value held, absent]

/-- Pairs of distinct names are the members that they build up. -/
theorem ofPairs_of_nodup {pairs : List (String × α)} (distinct : (names pairs).Nodup) :
    ofPairs pairs = pairs := by
  -- Both have the same names in the same order, and read the same under each.
  have sameNames : (ofPairs pairs).names = names pairs := by
    simp [ofPairs, names_insertAll distinct, contains, get?, names]
  refine ext_get? (nodup_ofPairs pairs) sameNames fun name _ => ?_
  simp [ofPairs, get?_insertAll distinct, get?]

/-- Putting members in changes nothing that they bring anew, if they begin with the names held. -/
theorem insertAll_of_names_append {base members : Members α} (distinct : members.names.Nodup)
    {others : List String} (begins : members.names = base.names ++ others) :
    insertAll base members = members := by
  have sameNames : (insertAll base members).names = members.names := by
    have ⟨_, _, apart⟩ := List.nodup_append.1 (begins ▸ distinct)
    -- Of the names put in, those of the base are held, and the others are not.
    have held : base.names.filter (fun name => !base.contains name) = [] := by
      refine List.filter_eq_nil_iff.2 fun name held => ?_
      simp [(contains_iff base name).2 held]
    have fresh : others.filter (fun name => !base.contains name) = others := by
      refine List.filter_eq_self.2 fun name other => ?_
      have absent : name ∉ base.names := fun held => apart name held name other rfl
      simpa [← contains_iff] using absent
    rw [names_insertAll distinct, begins, List.filter_append, held, fresh, List.nil_append]
  refine ext_get? (sameNames ▸ distinct) sameNames fun name held => ?_
  -- Every name is put in again with the value that the members have under it.
  obtain ⟨value, held⟩ := exists_of_mem_names (sameNames ▸ held)
  rw [get?_insertAll distinct, get?_of_mem distinct held, Option.some_or]

end Conform.Members
