import Conform.Proofs.Value.WellFormed
import Conform.Schema.Defaults

/-! What defaults come to, whether it depends on the container, and why laying them under a value a
second time changes nothing. -/

namespace Conform.Defaults

/-- Whether the member names of every object that a default may come to are distinct. -/
inductive WellFormed : Defaults → Prop where
  | value {value : Value} (sound : value.WellFormed) : WellFormed (.value value)
  -- A rule may answer each container differently, so it is asked about all of them.
  | compute {rule : Option Value → Value} (sound : ∀ parent, (rule parent).WellFormed) :
      WellFormed (.compute rule)
  | fields {entries : Members Defaults} (distinct : entries.names.Nodup)
      (each : ∀ name default, (name, default) ∈ entries → WellFormed default) :
      WellFormed (.fields entries)

/-- Whether a default is computed from the container. -/
def IsComputed : Defaults → Prop
  | compute _ => True
  | _ => False

/-- Whether what a default comes to does not depend on the container. -/
inductive IgnoresParent : Defaults → Prop where
  | value {value : Value} : IgnoresParent (.value value)
  | compute {rule : Option Value → Value} (same : ∀ parent other, rule parent = rule other) :
      IgnoresParent (.compute rule)
  | fields {entries : Members Defaults}
      (each : ∀ name default, (name, default) ∈ entries → IgnoresParent default) :
      IgnoresParent (.fields entries)

variable {defaults : Defaults} {parent : Option Value} {entries : Members Defaults}

/-- Entries come to members under some of their names. -/
theorem names_resolveEntries_sublist (parent : Option Value) (entries : Members Defaults) :
    (Members.names (resolveEntries parent entries)).Sublist entries.names := by
  -- Every entry keeps its name or is left out.
  induction entries with
  | nil => exact List.Sublist.refl _
  | cons head rest ih =>
    obtain ⟨name, default⟩ := head
    -- A computed entry is left out.
    cases default with
    | compute rule => exact ih.cons name
    | value | fields => exact ih.cons_cons name

/-- A member that entries come to is what one of them comes to, and that one is not computed. -/
theorem mem_resolveEntries {name : String} {value : Value}
    (found : (name, value) ∈ resolveEntries parent entries) :
    ∃ default, (name, default) ∈ entries ∧ ¬ default.IsComputed ∧
      value = resolve parent default := by
  induction entries with
  | nil => cases found
  | cons head rest ih =>
    obtain ⟨first, default⟩ := head
    -- A member may come from a later entry, whatever the first one is.
    have later : (name, value) ∈ resolveEntries parent rest →
        ∃ other, (name, other) ∈ (first, default) :: rest ∧ ¬ other.IsComputed ∧
          value = resolve parent other := by
      intro found
      obtain ⟨other, among, given⟩ := ih found
      exact ⟨other, List.mem_cons_of_mem _ among, given⟩
    cases default with
    | compute rule => exact later found
    | value | fields =>
      rcases List.mem_cons.1 found with same | found
      · cases same
        exact ⟨_, List.mem_cons_self, id, rfl⟩
      · exact later found

/-- A well-formed default comes to a well-formed value. -/
theorem WellFormed.resolve (sound : defaults.WellFormed) (parent : Option Value) :
    (defaults.resolve parent).WellFormed := by
  -- The induction goes down the tables, whose entries come to members of their own.
  induction sound with
  | value sound => exact sound
  | compute sound => exact sound parent
  | @fields entries distinct _ ih =>
    refine (Value.wellFormed_object _).2
      ⟨(names_resolveEntries_sublist parent entries).nodup distinct, fun name value found => ?_⟩
    obtain ⟨default, among, _, rfl⟩ := mem_resolveEntries found
    exact ih name default among

/-- A well-formed default comes to a well-formed value under every name. -/
theorem WellFormed.resolveField (sound : defaults.WellFormed) (name : String) (parent : Value) :
    (defaults.resolveField name parent).WellFormed := by
  -- A default object is asked for its member, and a table for its entry.
  cases sound with
  | @value value sound =>
    cases value with
    | object members => exact sound.member name
    | _ => exact Value.wellFormed_undefined
  | compute => exact Value.wellFormed_undefined
  | @fields entries _ each =>
    cases found : Members.get? entries name with
    | none => simp [Defaults.resolveField, found]
    | some default =>
      simp only [Defaults.resolveField, found]
      exact (each name default (Members.mem_of_get? found)).resolve _

mutual

/-- A default that is not computed comes to the same value in all containers. -/
theorem resolve_eq_of_not_isComputed (parent other : Option Value) :
    ∀ defaults : Defaults, ¬ defaults.IsComputed → defaults.resolve parent = defaults.resolve other
  | value _, _ => rfl
  -- A table is not computed, whatever entries it has.
  | compute _, given => absurd trivial given
  | fields entries, _ => congrArg Value.object (resolveEntries_eq parent other entries)
termination_by structural defaults => defaults

/-- Entries come to the same members in all containers, since those that are computed are left out. -/
theorem resolveEntries_eq (parent other : Option Value) : ∀ entries : List (String × Defaults),
    resolveEntries parent entries = resolveEntries other entries
  | [] => rfl
  -- The entries are gone through from the front, and those that are computed are passed over.
  | (_, compute _) :: rest => resolveEntries_eq parent other rest
  | (name, value given) :: rest =>
    congrArg (List.cons (name, given)) (resolveEntries_eq parent other rest)
  | (name, fields entries) :: rest => by
    have first := resolve_eq_of_not_isComputed parent other (fields entries) id
    rw [resolveEntries, resolveEntries, first, resolveEntries_eq parent other rest] <;> simp
termination_by structural entries => entries

end

/-- A default that does not depend on the container comes to the same value in all of them. -/
theorem IgnoresParent.resolve_eq (ignores : defaults.IgnoresParent) (parent other : Option Value) :
    defaults.resolve parent = defaults.resolve other := by
  -- Only a rule could look at the container.
  cases ignores with
  | value => rfl
  | compute same => exact same parent other
  | fields => exact resolve_eq_of_not_isComputed parent other _ id

/-- A default that does not depend on the container comes to the same under a name in all of them. -/
theorem IgnoresParent.resolveField_eq (ignores : defaults.IgnoresParent) (name : String)
    (parent other : Value) :
    defaults.resolveField name parent = defaults.resolveField name other := by
  -- The default under a name is an entry of the table, which does not depend on the container either.
  cases ignores with
  | value => rfl
  | compute => rfl
  | @fields entries each =>
    cases found : Members.get? entries name with
    | none => simp only [resolveField, found]
    | some default =>
      simp only [resolveField, found]
      exact (each name default (Members.mem_of_get? found)).resolve_eq (some parent) (some other)

/-- Laying a well-formed default under a well-formed value gives a well-formed value. -/
theorem WellFormed.mergeUnder (sound : defaults.WellFormed) {own : Value}
    (soundOwn : own.WellFormed) : (defaults.mergeUnder own).WellFormed := by
  have soundDefault := sound.resolve none
  unfold Defaults.mergeUnder
  split
  · -- Two objects: the names stay distinct while members are put in.
    rename_i base members resolved
    rw [resolved] at soundDefault
    obtain ⟨distinct, values⟩ := (Value.wellFormed_object base).1 soundDefault
    obtain ⟨distinctOwn, valuesOwn⟩ := (Value.wellFormed_object members).1 soundOwn
    refine (Value.wellFormed_object _).2 ⟨Members.nodup_insertAll members distinct, ?_⟩
    intro name value held
    have found := Members.get?_of_mem (Members.nodup_insertAll members distinct) held
    -- A member of the merged object comes from the value or else from the default.
    rw [Members.get?_insertAll distinctOwn] at found
    rcases Option.or_eq_some_iff.1 found with found | ⟨_, found⟩
    · exact valuesOwn name value (Members.mem_of_get? found)
    · exact values name value (Members.mem_of_get? found)
  · exact soundDefault
  · exact soundOwn

/-- Once a default lies under an object, laying it under any object of the same names and more changes
nothing. -/
theorem mergeUnder_of_names_append {own : Value} (soundOwn : own.WellFormed)
    {members accepted : Members Value} (merged : defaults.mergeUnder own = .object members)
    (distinct : accepted.names.Nodup) {added : List String}
    (names : accepted.names = members.names ++ added) :
    defaults.mergeUnder (.object accepted) = .object accepted := by
  cases resolved : defaults.resolve none with
  | object base =>
    -- The names of the default come first in the merged object.
    have begins : ∃ others, members.names = Members.names base ++ others := by
      cases own with
      | object held =>
        simp only [mergeUnder, resolved, Value.object.injEq] at merged
        obtain ⟨distinctOwn, _⟩ := (Value.wellFormed_object held).1 soundOwn
        exact ⟨_, by rw [← merged, Members.names_insertAll distinctOwn]⟩
      | undefined =>
        simp only [mergeUnder, resolved, Value.object.injEq] at merged
        exact ⟨[], by rw [merged, List.append_nil]⟩
      | _ => simp [mergeUnder, resolved] at merged
    obtain ⟨others, begins⟩ := begins
    -- So they come first in the accepted object too, which brings a value for each of them.
    rw [begins, List.append_assoc] at names
    simp [mergeUnder, resolved, Members.insertAll_of_names_append distinct names]
  | _ => simp [mergeUnder, resolved]

end Conform.Defaults
