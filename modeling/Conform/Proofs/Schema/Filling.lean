import Conform.Proofs.Schema.Concord
import Conform.Proofs.Schema.Parent

/-! A default is as good as written in: a shape checks an object as it checks, without its default, the
object with the default written in. -/

namespace Conform

/-- An object with the default of each declared name written in, where it holds nothing defined and the
default is defined. -/
def Defaults.fill (defaults : Defaults) (declared : List String) (members : Members Value) :
    Members Value :=
  let default := fun name => defaults.resolveField name (.object members)
  -- Names that are held keep their places, and new ones follow as they are declared.
  Members.insertAll members ((declared.filter fun name =>
    ((members.get? name).getD .undefined).isUndefined && !(default name).isUndefined).map
      fun name => (name, default name))

/-- The members that a shape checks by default: those of an object, laid over the default if other
names are free. -/
def ShapeMode.overlay (mode : ShapeMode) (defaults : Defaults) (own : Members Value) :
    Members Value :=
  match mode, defaults.mergeUnder (.object own) with
  | .extensible, .object merged => merged
  -- Otherwise the default is asked for one name at a time, and nothing is laid under.
  | _, _ => own

/-- Whether an object holds nothing defined under a name. -/
abbrev Lacks (members : Members Value) (name : String) : Prop :=
  ((members.get? name).getD .undefined).isUndefined = true

namespace Defaults

/-- Whether a default is given name by name. -/
def IsTable : Defaults → Prop
  | value (.object _) => True
  | fields _ => True
  | _ => False

/-- What a default says of one name: an entry of a table, or a member of a default object. -/
def given? (defaults : Defaults) (name : String) : Option Defaults :=
  match defaults with
  | value (.object members) => (Members.get? members name).map value
  | fields entries => Members.get? entries name
  | _ => none

/-- Two defaults that are given name by name, and differ at most under names that an object holds as
something defined. -/
structure AgreeBeyond (own : Members Value) (defaults others : Defaults) : Prop where
  table : defaults.IsTable
  tableToo : others.IsTable
  -- Only a name that holds nothing defined can have its default written in.
  entry : ∀ name, Lacks own name → defaults.given? name = others.given? name

/-- Whether a default comes to the same for objects that differ in the order of their members alone, if
it is computed. -/
def IsOrderFree : Defaults → Prop
  | compute rule => ∀ members others : Members Value, members.names.Nodup → members.Perm others →
      rule (some (.object members)) = rule (some (.object others))
  | _ => True

end Defaults

namespace Defaults

variable {mode : ShapeMode} {defaults others : Defaults} {declared : List String}
  {members own : Members Value} {name : String}

/-- What an object holds once defaults are written in. -/
theorem get?_fill (once : declared.Nodup) (name : String) :
    (defaults.fill declared members).get? name =
      if name ∈ declared ∧ ((members.get? name).getD .undefined).isUndefined = true ∧
          (defaults.resolveField name (.object members)).isUndefined = false then
        some (defaults.resolveField name (.object members))
      else members.get? name := by
  have distinct : (Members.names ((declared.filter fun name =>
      ((members.get? name).getD .undefined).isUndefined &&
        !(defaults.resolveField name (.object members)).isUndefined).map
          fun name => (name, defaults.resolveField name (.object members)))).Nodup := by
    rw [Members.names_tabulated]
    exact once.filter _
  -- What is written in is read first, and elsewhere the object is read as it was.
  rw [fill, Members.get?_insertAll distinct, Members.get?_tabulated]
  simp only [List.mem_filter, Bool.and_eq_true, Bool.not_eq_true']
  split <;> rfl

/-- Laid under an object, a default gives an object. -/
theorem object_overlay (mode : ShapeMode) (defaults : Defaults) (own : Members Value) :
    Value.object (mode.overlay defaults own) =
      if mode = .extensible then defaults.mergeUnder (.object own) else .object own := by
  cases mode with
  | exact | sparse => rfl
  | extensible =>
    -- Whatever the default comes to, an object stays one.
    unfold ShapeMode.overlay mergeUnder
    cases defaults.resolve none <;> rfl

/-- An object keeps what it holds when a default is laid under it. -/
theorem get?_overlay_of_held (distinct : own.names.Nodup) {value : Value}
    (held : own.get? name = some value) : (mode.overlay defaults own).get? name = some value := by
  -- Nothing is laid under an object of a closed shape, and the own members go over whatever is.
  cases mode with
  | exact | sparse => exact held
  | extensible =>
    unfold ShapeMode.overlay mergeUnder
    cases defaults.resolve none with
    | object base => simp only [Members.get?_insertAll distinct, held, Option.some_or]
    | _ => exact held

/-- What a default comes to under a name is what it says of the name, if it says anything. -/
theorem resolveField_eq_given (defaults : Defaults) (name : String) (container : Value) :
    defaults.resolveField name container =
      ((defaults.given? name).map (resolve (some container))).getD .undefined := by
  cases defaults with
  | value v =>
    -- Only objects have members, and those are what they are in any container.
    cases v with
    | object members =>
      simp only [resolveField, given?, Value.get?, Value.object?, Option.bind_some, Option.map_map]
      cases Members.get? members name <;> rfl
    | _ => rfl
  | compute rule => rfl
  | fields entries =>
    simp only [resolveField, given?]
    cases Members.get? entries name <;> rfl

/-- What a default comes to where it is laid under an object: nothing if it is computed. -/
def laid? (default : Defaults) : Option Value :=
  match default with
  | compute _ => none
  | default => some (default.resolve none)

/-- Entries of distinct names come to what each of them is laid down as. -/
theorem get?_resolveEntries {entries : Members Defaults} (distinct : entries.names.Nodup)
    (name : String) :
    Members.get? (resolveEntries none entries) name = (Members.get? entries name).bind laid? := by
  induction entries with
  | nil => rfl
  | cons head rest ih =>
    obtain ⟨first, default⟩ := head
    obtain ⟨fresh, distinctRest⟩ := List.nodup_cons.1 distinct
    have others := ih distinctRest
    by_cases same : name = first
    · subst same
      -- A computed entry is left out, and no later one has its name.
      cases default with
      | compute rule =>
        rw [resolveEntries, others, Members.get?_of_not_mem fresh]
        simp [Members.get?, laid?]
      | value | fields => simp [resolveEntries, Members.get?, laid?]
    · cases default <;> simp [resolveEntries, Members.get?, same, others]

/-- A default that is given name by name comes to an object of what it lays down under each name. -/
theorem IsTable.exists_base (table : defaults.IsTable) (sound : defaults.WellFormed) :
    ∃ base : Members Value, defaults.resolve none = .object base ∧
      ∀ name, base.get? name = (defaults.given? name).bind laid? := by
  -- A default object is laid down as it is, and a table as what its entries are laid down as.
  cases sound with
  | @value v sound =>
    cases v with
    | object members =>
      refine ⟨members, rfl, fun name => ?_⟩
      cases found : Members.get? members name <;> simp [given?, found, laid?, resolve]
    | _ => exact table.elim
  | compute => exact table.elim
  | @fields entries distinct each => exact ⟨_, rfl, get?_resolveEntries distinct⟩

/-- The names stay distinct when a well-formed default is laid under an object. -/
theorem WellFormed.nodup_overlay (soundDefault : defaults.WellFormed)
    (sound : (Value.object own).WellFormed) (mode : ShapeMode) :
    (mode.overlay defaults own).names.Nodup := by
  -- The overlay is the object itself or a merge, and merging keeps names distinct.
  have soundOverlay : (Value.object (mode.overlay defaults own)).WellFormed := by
    rw [object_overlay]
    split
    · exact soundDefault.mergeUnder sound
    · exact sound
  exact ((Value.wellFormed_object _).1 soundOverlay).1

/-- Laid under an object, defaults that agree beyond it give the same under each name. -/
theorem AgreeBeyond.get?_overlay (agree : AgreeBeyond own defaults others)
    (soundDefault : defaults.WellFormed) (soundOther : others.WellFormed)
    (distinctOwn : own.names.Nodup) (mode : ShapeMode) (name : String) :
    (mode.overlay defaults own).get? name = (mode.overlay others own).get? name := by
  cases held : own.get? name with
  | some value =>
    -- What the object holds itself stays, whichever default is laid under it.
    rw [get?_overlay_of_held distinctOwn held, get?_overlay_of_held distinctOwn held]
  | none =>
    cases mode with
    | exact | sparse => rfl
    | extensible =>
      -- The object does not hold the name, so both defaults lay down the same there.
      have lacks : Lacks own name := by rw [Lacks, held]; rfl
      obtain ⟨base, resolved, read⟩ := agree.table.exists_base soundDefault
      obtain ⟨base', resolved', read'⟩ := agree.tableToo.exists_base soundOther
      simp only [ShapeMode.overlay, mergeUnder, resolved, resolved',
        Members.get?_insertAll distinctOwn, held, Option.none_or, read, read',
        agree.entry name lacks]

/-- A default comes to the same for two objects if they are one, or if it is order-free and they differ
in the order of their members alone. -/
theorem resolve_eq_of_perm {default : Defaults} {others : Members Value}
    (same : members = others ∨ default.IsOrderFree) (distinct : members.names.Nodup)
    (perm : members.Perm others) :
    default.resolve (some (.object members)) = default.resolve (some (.object others)) := by
  -- What is not computed does not look at the container at all.
  rcases same with rfl | free
  · rfl
  · cases default with
    | compute rule => exact free members others distinct perm
    | value | fields => exact resolve_eq_of_not_isComputed _ _ _ id

end Defaults

namespace Schema

/-- No check against the schema depends on the container that a value stands in. -/
def ParentBlind (links : Links) (schema : Schema) : Prop :=
  ∀ depth value parent other,
    validate links depth schema value parent = validate links depth schema value other

variable {links : Links} {mode : ShapeMode} {guard : Predicate} {fields : Members Schema}
  {type : String} {defaults others : Defaults} {members own : Members Value}
  {parent other : Option Value} {depth : Nat}

/-- What stands under a name is what the object holds there, or the default if that is not defined. -/
theorem standing_eq (given : Option Defaults) (members : Members Value) (name : String) :
    standing given members name =
      if ((members.get? name).getD .undefined).isUndefined then substitute given members name
      else (members.get? name).getD .undefined := by
  -- An absent name counts as undefined.
  unfold standing
  cases members.get? name <;> rfl

/-- Without a default, what stands under a name is what the object holds there. -/
theorem standing_none (members : Members Value) (name : String) :
    standing none members name = (members.get? name).getD .undefined := by
  -- Nothing is put in the place of what is undefined.
  rw [standing_eq]
  split
  · rename_i lacking
    exact (Value.isUndefined_iff.1 lacking).symm
  · rfl

/-- A shape comes upon the same in an object as it does, without its default, in the object with the
default written in. -/
theorem sameStanding_fill (defaults : Defaults) (members : Members Value)
    (declaredOnce : fields.names.Nodup) :
    SameStanding (some defaults) none fields members (defaults.fill fields.names members) where
  standing := by
    intro name declared
    rw [standing_none, Defaults.get?_fill declaredOnce, standing_eq]
    simp only [declared, true_and, substitute]
    -- The default is written in where it is asked for, unless it is as undefined as what is there.
    by_cases lacking : ((members.get? name).getD .undefined).isUndefined = true
    · cases defined : (defaults.resolveField name (.object members)).isUndefined with
      | false => simp [lacking]
      | true => simp [Value.isUndefined_iff.1 defined, Value.isUndefined_iff.1 lacking]
    · simp [lacking]
  undefined := by
    intro name _ undefined
    -- Nothing is written in where nothing defined stands.
    have unfilled : (defaults.fill fields.names members).get? name = members.get? name := by
      rw [Defaults.get?_fill declaredOnce, if_neg]
      rintro ⟨_, lacking, defined⟩
      rw [standing_eq, if_pos lacking, substitute, defined] at undefined
      exact Bool.false_ne_true undefined
    exact (Members.mem_names_congr unfilled).symm
  undeclared := by
    intro name undeclared
    rw [Defaults.get?_fill declaredOnce, if_neg fun filled => undeclared filled.1]

/-- A shape comes upon the same in an object under defaults that agree beyond it, if the order of members
makes no difference to what is computed, or if nothing is laid under the object. -/
theorem sameStanding_of_agreeBeyond (agree : Defaults.AgreeBeyond own defaults others)
    (soundDefault : defaults.WellFormed) (soundOther : others.WellFormed)
    (sound : (Value.object own).WellFormed)
    (orderFree : mode = .extensible → ∀ name ∈ fields.names, Lacks own name →
      ∀ default, defaults.given? name = some default → default.IsOrderFree) :
    SameStanding (some defaults) (some others) fields (mode.overlay defaults own)
      (mode.overlay others own) := by
  -- Both overlays read alike, so they hold the same members in whatever order.
  have distinct := soundDefault.nodup_overlay sound mode
  have distinctToo := soundOther.nodup_overlay sound mode
  have distinctOwn := ((Value.wellFormed_object own).1 sound).1
  have read := agree.get?_overlay soundDefault soundOther distinctOwn mode
  have perm := Members.perm_of_get?_eq distinct distinctToo read
  constructor
  · intro name declared
    rw [standing_eq, standing_eq, ← read name]
    split
    · rename_i lacking
      -- A name that is asked for is not held by the object itself as something defined.
      have lacks : Lacks own name := by
        cases held : own.get? name with
        | none => rw [Lacks, held]; rfl
        | some value =>
          rw [Defaults.get?_overlay_of_held distinctOwn held] at lacking
          rw [Lacks, held]
          exact lacking
      rw [substitute, substitute, Defaults.resolveField_eq_given, Defaults.resolveField_eq_given,
        ← agree.entry name lacks]
      -- What both say of the name comes to the same in the one overlay and in the other.
      cases said : defaults.given? name with
      | none => rfl
      | some default =>
        refine Defaults.resolve_eq_of_perm ?_ distinct perm
        cases mode with
        | exact | sparse => exact .inl rfl
        | extensible => exact .inr (orderFree rfl name declared lacks default said)
    · rfl
  · exact fun name _ _ => Members.mem_names_congr (read name)
  · exact fun name _ => read name

/-- What a shape with a default checks of an object. -/
theorem effective_shape_object (type : String) (defaults : Defaults) (guard : Predicate)
    (fields : Members Schema) (own : Members Value) (parent : Option Value) :
    (shape ⟨type, some defaults⟩ mode guard fields).effective (.object own) parent =
      .object (mode.overlay defaults own) := by
  -- An object is defined, so the default is not taken in its place but laid under it, or not at all.
  rw [Defaults.object_overlay]
  cases mode <;> rfl

/-- Two shapes that come upon the same in what they check concur, if their guard is the built-in one
and their fields do not look at the container. -/
theorem SameStanding.validate_concur {given given' : Option Defaults} {value value' : Value}
    {parent' : Option Value} {members' : Members Value}
    (same : SameStanding given given' fields members members')
    (builtin : Registry.builtin.get? "object" = some guard) (declaredOnce : fields.names.Nodup)
    (blind : ∀ name schema, (name, schema) ∈ fields → ParentBlind links schema)
    (effective : (shape ⟨type, given⟩ mode guard fields).effective value parent = .object members)
    (effective' :
      (shape ⟨type, given'⟩ mode guard fields).effective value' parent' = .object members')
    (distinct : members.names.Nodup) (distinct' : members'.names.Nodup) :
    Concur (validate links (depth + 1) (.shape ⟨type, given⟩ mode guard fields) value parent)
      (validate links (depth + 1) (.shape ⟨type, given'⟩ mode guard fields) value' parent') := by
  -- Both come down to the check of members, and validation keeps what is defined.
  have concur : Concur (checkShape (validate links depth) mode given fields members)
      (checkShape (validate links depth) mode given' fields members') :=
    same.concur declaredOnce distinct distinct'
      (fun name schema among value => blind name schema among depth value _ _)
      fun _ _ _ _ checked => kept_validate checked
  -- The guard lets every object in, so its members are all there is to check.
  rwa [validate_shape (isPass_of_builtin_object builtin members none) effective,
    validate_shape (isPass_of_builtin_object builtin members' none) effective']

/-- Defaults are as good as written in. A shape with a default, behind the built-in guard, checks an
object, laid over the default if other names are free, as it does without its default once that is
written in: both accept, with the same members in whatever order, or both refuse, with the same
findings in whatever order. So defaults that differ only under names that the object holds as something
defined come to the same, unless other names are free and something is computed from the order of
members. -/
theorem defaults_written_in (builtin : Registry.builtin.get? "object" = some guard)
    (node : NamesDistinct (.shape ⟨type, some defaults⟩ mode guard fields))
    (blind : ∀ name schema, (name, schema) ∈ fields → ParentBlind links schema)
    (sound : (Value.object own).WellFormed) (depth : Nat) (parent : Option Value) :
    (Value.object (mode.overlay defaults own) =
      if mode = .extensible then defaults.mergeUnder (.object own) else .object own) ∧
    Concur (validate links (depth + 1) (.shape ⟨type, some defaults⟩ mode guard fields)
        (.object own) parent)
      (validate links (depth + 1) (.shape ⟨type, none⟩ mode guard fields)
        (.object (defaults.fill fields.names (mode.overlay defaults own))) parent) ∧
    ∀ others, Defaults.WellFormed others → Defaults.AgreeBeyond own defaults others →
      (mode = .extensible → ∀ name ∈ fields.names, Lacks own name →
        ∀ default, defaults.given? name = some default → default.IsOrderFree) →
      Concur (validate links (depth + 1) (.shape ⟨type, some defaults⟩ mode guard fields)
          (.object own) parent)
        (validate links (depth + 1) (.shape ⟨type, some others⟩ mode guard fields)
          (.object own) parent) := by
  have declaredOnce : fields.names.Nodup := node.declared
  have soundDefault := node.defaults defaults rfl
  have distinct := soundDefault.nodup_overlay sound mode
  refine ⟨Defaults.object_overlay mode defaults own, ?_,
    fun others soundOthers agree orderFree => ?_⟩
  · -- The object with the default written in is checked as it is.
    exact (sameStanding_fill defaults (mode.overlay defaults own) declaredOnce).validate_concur
      builtin declaredOnce blind
      (effective_shape_object type defaults guard fields own parent) rfl distinct
      (Members.nodup_insertAll _ distinct)
  · -- Under the other default, the same is read and the same is asked for.
    exact (sameStanding_of_agreeBeyond agree soundDefault soundOthers sound
      orderFree).validate_concur builtin declaredOnce blind
        (effective_shape_object type defaults guard fields own parent)
        (effective_shape_object type others guard fields own parent) distinct
        (soundOthers.nodup_overlay sound mode)

/-- A piece of text, which may be some value by default. -/
def wording (default : Option Value) : Schema :=
  .scalar ⟨"string", default.map .value⟩ (Registry.hasTag .string)

/-- A text does not depend on where it stands. -/
theorem parentBlind_wording (default : Option Value) : ParentBlind links (wording default) := by
  -- What stands around the text is passed on, and nothing looks at it.
  intro depth value parent other
  cases depth <;> cases default <;> rfl

/-- A booking has a room, nights and a note, and it may say more. -/
def booking (defaults : Option Defaults) : Schema :=
  .shape ⟨"booking", defaults⟩ .extensible (Registry.hasTag .object)
    [("room", wording none), ("nights", wording none), ("note", wording (some (.string "none")))]

/-- By default a booking comes with breakfast and a room, and it is for seven nights if it says that it
is for a week. -/
def bookingDefaults (room : Value) : Defaults :=
  .fields [("meal", .value (.string "breakfast")), ("room", .value room),
    ("nights", .compute fun parent =>
      if (parent.bind fun booking => booking.get? "week").isSome then .string "seven" else .undefined)]

/-- What a booking has by default is well-formed. -/
theorem wellFormed_bookingDefaults {room : Value} (sound : room.WellFormed) :
    (bookingDefaults room).WellFormed := by
  -- Each of the three entries is, whatever has been computed.
  refine .fields (by simp [Members.names]) fun name default among => ?_
  simp only [List.mem_cons, Prod.mk.injEq, List.not_mem_nil, or_false] at among
  rcases among with ⟨_, rfl⟩ | ⟨_, rfl⟩ | ⟨_, rfl⟩
  · exact .value (Value.wellFormed_string _)
  · exact .value sound
  · refine .compute fun parent => ?_
    split
    · exact Value.wellFormed_string _
    · exact Value.wellFormed_undefined

/-- The nights of a booking are the same for a week wherever that is said in it. -/
theorem isOrderFree_bookingDefaults {room : Value} {name : String} {default : Defaults}
    (said : (bookingDefaults room).given? name = some default) : default.IsOrderFree := by
  have among := Members.mem_of_get? said
  simp only [List.mem_cons, Prod.mk.injEq, List.not_mem_nil, or_false] at among
  rcases among with ⟨_, rfl⟩ | ⟨_, rfl⟩ | ⟨_, rfl⟩
  · trivial
  · trivial
  · -- The rule reads one name, under which both objects hold the same.
    intro members others distinct perm
    have read := Members.get?_eq_of_perm distinct perm "week"
    show (if (members.get? "week").isSome = true then Value.string "seven" else .undefined) = _
    rw [read]
    rfl

/-- A booking of a room for a week is checked as it is with breakfast and seven nights written in, and
the default of the room may be any other, even one that is no room. -/
theorem defaults_written_in_booking :
    validate [] 2 (booking (some (bookingDefaults (.string "attic"))))
        (.object [("nights", .undefined), ("room", .string "cellar"), ("week", .bool true)]) none =
      .ok (.ok (.object [("meal", .string "breakfast"), ("room", .string "cellar"),
        ("nights", .string "seven"), ("week", .bool true), ("note", .string "none")])) ∧
    Concur
      (validate [] 2 (booking (some (bookingDefaults (.string "attic"))))
        (.object [("nights", .undefined), ("room", .string "cellar"), ("week", .bool true)]) none)
      (validate [] 2 (booking none) (.object [("meal", .string "breakfast"),
        ("room", .string "cellar"), ("nights", .string "seven"), ("week", .bool true)]) none) ∧
    Concur
      (validate [] 2 (booking (some (bookingDefaults (.string "attic"))))
        (.object [("nights", .undefined), ("room", .string "cellar"), ("week", .bool true)]) none)
      (validate [] 2 (booking (some (bookingDefaults .null)))
        (.object [("nights", .undefined), ("room", .string "cellar"), ("week", .bool true)]) none) := by
  -- The names are distinct and the fields are texts, so everything that is asked of the booking
  -- holds.
  have node : NamesDistinct (booking (some (bookingDefaults (.string "attic")))) := by
    refine ⟨by simp [declaredNames, booking, Members.names], fun defaults given => ?_⟩
    cases given
    exact wellFormed_bookingDefaults (Value.wellFormed_string _)
  have blind : ∀ name schema, (name, schema) ∈ [("room", wording none), ("nights", wording none),
      ("note", wording (some (.string "none")))] → ParentBlind [] schema := by
    intro name schema among
    simp only [List.mem_cons, Prod.mk.injEq, List.not_mem_nil, or_false] at among
    rcases among with ⟨_, rfl⟩ | ⟨_, rfl⟩ | ⟨_, rfl⟩ <;> exact parentBlind_wording _
  have sound : (Value.object [("nights", .undefined), ("room", .string "cellar"),
      ("week", .bool true)]).WellFormed := by
    simp [Value.WellFormed, Value.MembersWellFormed, Members.names]
  -- The room is held, and under every other name the two defaults say the same.
  have agree : Defaults.AgreeBeyond
      [("nights", .undefined), ("room", .string "cellar"), ("week", .bool true)]
      (bookingDefaults (.string "attic")) (bookingDefaults .null) := by
    refine ⟨trivial, trivial, fun name lacks => ?_⟩
    by_cases room : name = "room"
    · subst room
      cases lacks
    · simp only [Defaults.given?, bookingDefaults, Members.get?, if_neg room]
  -- The first run is carried out, and the other two are compared with it.
  obtain ⟨_, written, beyond⟩ := defaults_written_in rfl node blind sound 1 none
  refine ⟨rfl, written, beyond _ (wellFormed_bookingDefaults trivial) agree ?_⟩
  exact fun _ name _ _ default said => isOrderFree_bookingDefaults said

/-- A parade has a band and a leader. -/
def paradeFields : Members Schema :=
  [("band", wording none), ("leader", wording none)]

/-- Others may join in a parade. -/
def parade (defaults : Defaults) : Schema :=
  .shape ⟨"parade", some defaults⟩ .extensible (Registry.hasTag .object) paradeFields

/-- By default whoever comes first in a parade leads it. -/
def foremost : Defaults :=
  .compute fun parent =>
    match parent with
    -- The first member is one thing before other members are laid under, and another after.
    | some (.object ((_, first) :: _)) => first
    | _ => .undefined

/-- A band that is in a parade is put first if there is a default for it, and so it leads; without that
default it is somebody else who comes first, and who cannot lead. -/
theorem default_of_held_name_decides :
    Registry.builtin.get? "object" = some (Registry.hasTag .object) ∧
    (∀ name schema, (name, schema) ∈ paradeFields → ParentBlind [] schema) ∧
    (∃ accepted, validate [] 2
      (parade (.fields [("band", .value (.string "brass")), ("leader", foremost)]))
        (.object [("guest", .null), ("band", .string "strings")]) none = .ok (.ok accepted)) ∧
    ∃ error, validate [] 2 (parade (.fields [("leader", foremost)]))
      (.object [("guest", .null), ("band", .string "strings")]) none = .ok (.error error) := by
  refine ⟨rfl, fun name schema among => ?_, ⟨_, rfl⟩, ⟨_, rfl⟩⟩
  -- Both fields are texts, which do not depend on where they stand.
  simp only [paradeFields, List.mem_cons, Prod.mk.injEq, List.not_mem_nil, or_false] at among
  rcases among with ⟨_, rfl⟩ | ⟨_, rfl⟩ <;> exact parentBlind_wording _

end Schema

end Conform
