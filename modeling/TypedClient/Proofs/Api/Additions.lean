import TypedClient.Proofs.Api.View
import TypedClient.Proofs.Json.TreeShapes

/-!
# Additions that are not looked at

`View.Grows` says that a tree becomes another by additions that a view does not look at:
members of other names anywhere in an object, with any values. `Shape.seen` is what a view
leaves of what a tree holds as a value of a shape. Where two such trees both hold a value
of a shape, the view leaves the same of both (`Shape.seen_eq_of_grows`).
-/

namespace TypedClient.Api

open TypedClient.Json (Scalar Tree foldMembers memberValues)

mutual
/-- A tree and what it becomes by additions that a view does not look at. -/
inductive View.Grows : View → Tree → Tree → Prop where
  /-- Nothing is added. -/
  | same {view : View} {tree : Tree} : Grows view tree tree
  /-- Members are added to an object, or something to their values. -/
  | object {view : View} {members members' : List (Option String × Tree)} :
    MembersGrow view members members' → Grows view (.object members) (.object members')
  /-- Something is added to the values that stand in an array in place of members. -/
  | record {fields : List (String × View)} {items items' : List Tree} :
    ValuesGrow (.record fields) (fields.map Prod.fst) items items' →
    Grows (.record fields) (.array items) (.array items')
  /-- Something is added to the items of an array. -/
  | list {item : View} {items items' : List Tree} :
    ItemsGrow item items items' → Grows (.list item) (.array items) (.array items')
  /-- An array in place of a schema is as good as any other. -/
  | tuple {items items' : List Tree} : Grows .schema (.array items) (.array items')
/-- The members of an object. -/
inductive View.MembersGrow : View → List (Option String × Tree) → List (Option String × Tree) → Prop
    where
  /-- There are no more members. -/
  | done {view : View} : MembersGrow view [] []
  /-- A member is added that is not looked at. -/
  | added {view : View} {name : String} {value : Tree} {rest rest' : List (Option String × Tree)} :
    view.member name = none → MembersGrow view rest rest' →
    MembersGrow view rest ((some name, value) :: rest')
  /-- A member is not looked at. -/
  | passed {view : View} {name : String} {value value' : Tree}
    {rest rest' : List (Option String × Tree)} :
    view.member name = none → MembersGrow view rest rest' →
    MembersGrow view ((some name, value) :: rest) ((some name, value') :: rest')
  /-- Something is added to the value of a member. -/
  | kept {view inner : View} {name : String} {value value' : Tree}
    {rest rest' : List (Option String × Tree)} :
    view.member name = some inner → Grows inner value value' → MembersGrow view rest rest' →
    MembersGrow view ((some name, value) :: rest) ((some name, value') :: rest')
/-- The values of members, in the order of their names. -/
inductive View.ValuesGrow : View → List String → List Tree → List Tree → Prop where
  /-- There are no more values. -/
  | done {view : View} {names : List String} : ValuesGrow view names [] []
  /-- Something is added to a value. -/
  | item {view inner : View} {name : String} {names : List String} {item item' : Tree}
    {items items' : List Tree} :
    view.member name = some inner → Grows inner item item' → ValuesGrow view names items items' →
    ValuesGrow view (name :: names) (item :: items) (item' :: items')
/-- The items of an array. -/
inductive View.ItemsGrow : View → List Tree → List Tree → Prop where
  /-- There are no more items. -/
  | done {view : View} : ItemsGrow view [] []
  /-- Something is added to an item. -/
  | item {view : View} {item item' : Tree} {items items' : List Tree} :
    Grows view item item' → ItemsGrow view items items' →
    ItemsGrow view (item :: items) (item' :: items')
end

namespace View

/-! ### Trees that grow -/

mutual
/-- Nothing is added to what is looked at as a whole. -/
theorem Grows.eq_of_whole {tree tree' : Tree} : Grows .whole tree tree' → tree = tree'
  | .same => rfl
  | .object h => by rw [h.eq_of_whole]
theorem MembersGrow.eq_of_whole {members members' : List (Option String × Tree)} :
    MembersGrow .whole members members' → members = members'
  | .done => rfl
  | .added h _ => by simp [member] at h
  | .passed h _ => by simp [member] at h
  | .kept h hvalue hrest => by
    obtain rfl := Option.some.inj h
    rw [hvalue.eq_of_whole, hrest.eq_of_whole]
end

/-- Nothing is added to a scalar. -/
theorem Grows.eq_of_scalar {view : View} {scalar : Scalar} {tree : Tree}
    (h : view.Grows (.scalar scalar) tree) : tree = .scalar scalar := by
  cases h
  rfl

/-- Nothing becomes a scalar. -/
theorem Grows.eq_scalar {view : View} {scalar : Scalar} {tree : Tree}
    (h : view.Grows tree (.scalar scalar)) : tree = .scalar scalar := by
  cases h
  rfl

/-- What is seen of two runs through members is the same at the end if it is the same at the start,
if members that are not looked at change nothing of it, and if the others do the same to it. -/
theorem MembersGrow.foldMembers_eq {σ τ : Type} (seen : σ → τ) {view : View}
    {put : String → Tree → σ → Option σ}
    (hpassed : ∀ {name value state next}, view.member name = none →
      put name value state = some next → seen next = seen state)
    (hkept : ∀ {name inner value value' state state' next next'}, view.member name = some inner →
      inner.Grows value value' → seen state = seen state' → put name value state = some next →
      put name value' state' = some next' → seen next = seen next')
    {members members' : List (Option String × Tree)} (hg : MembersGrow view members members')
    {state state' last last' : σ} (hs : seen state = seen state')
    (h : foldMembers put state members = some last)
    (h' : foldMembers put state' members' = some last') : seen last = seen last' := by
  -- Every constructor but the first has one more member on the right.
  induction members' generalizing members state state' with
  | nil =>
    cases hg
    obtain rfl := Option.some.inj h
    obtain rfl := Option.some.inj h'
    exact hs
  | cons m rest' ih =>
    cases hg with
    | added hm hrest =>
      rw [foldMembers, Option.bind_some, Option.bind_eq_some_iff] at h'
      obtain ⟨next', hnext', h'⟩ := h'
      exact ih hrest (hs.trans (hpassed hm hnext').symm) h h'
    | passed hm hrest =>
      rw [foldMembers, Option.bind_some, Option.bind_eq_some_iff] at h h'
      obtain ⟨next, hnext, h⟩ := h
      obtain ⟨next', hnext', h'⟩ := h'
      refine ih hrest ?_ h h'
      rw [hpassed hm hnext, hs, hpassed hm hnext']
    | kept hm hvalue hrest =>
      rw [foldMembers, Option.bind_some, Option.bind_eq_some_iff] at h h'
      obtain ⟨next, hnext, h⟩ := h
      obtain ⟨next', hnext', h'⟩ := h'
      exact ih hrest (hkept hm hvalue hs hnext hnext') h h'

/-- What is seen of two arrays is the same if it is the same of their items. -/
theorem ItemsGrow.map_seen_eq {α β : Type} {decode : Tree → Option α} {seen : α → β} {view : View}
    (hseen : ∀ {tree tree' value value'}, view.Grows tree tree' → decode tree = some value →
      decode tree' = some value' → seen value = seen value') {items items' : List Tree}
    (hg : ItemsGrow view items items') {values values' : List α}
    (h : items.mapM decode = some values) (h' : items'.mapM decode = some values') :
    values.map seen = values'.map seen := by
  induction items generalizing items' values values' with
  | nil =>
    cases hg
    rw [Option.some.inj (h.symm.trans h')]
  | cons item rest ih =>
    cases hg with
    | item hitem hitems =>
      rw [List.mapM_cons] at h h'
      obtain ⟨v, hv, h⟩ := Option.bind_eq_some_iff.mp h
      obtain ⟨v', hv', h'⟩ := Option.bind_eq_some_iff.mp h'
      obtain ⟨others, hothers, h⟩ := Option.bind_eq_some_iff.mp h
      obtain ⟨others', hothers', h'⟩ := Option.bind_eq_some_iff.mp h'
      obtain rfl := Option.some.inj h
      obtain rfl := Option.some.inj h'
      rw [List.map_cons, List.map_cons, hseen hitem hv hv', ih hitems hothers hothers']

/-! ### Values -/

mutual
/-- What is seen of a value is not changed by additions that are not looked at. -/
theorem Grows.seen_eq {view : View} {tree tree' : Tree} :
    view.Grows tree tree' → ∀ {value value' : Json}, tree.value? = some value →
      tree'.value? = some value' → view.seen value = view.seen value'
  | .same, value, value', h, h' => by
    rw [h] at h'
    rw [Option.some.inj h']
  | .object hgrows, value, value', h, h' => by
    rw [Tree.value?, Option.map_eq_some_iff] at h h'
    obtain ⟨values, hvalues, rfl⟩ := h
    obtain ⟨values', hvalues', rfl⟩ := h'
    rw [seen_object, seen_object, hgrows.entries_eq rfl hvalues hvalues']
  | .record _, value, value', h, h' => by
    rw [Tree.value?, Option.map_eq_some_iff] at h h'
    obtain ⟨values, -, rfl⟩ := h
    obtain ⟨values', -, rfl⟩ := h'
    rfl
  | .list _, value, value', h, h' => by
    rw [Tree.value?, Option.map_eq_some_iff] at h h'
    obtain ⟨values, -, rfl⟩ := h
    obtain ⟨values', -, rfl⟩ := h'
    rfl
  | .tuple, value, value', h, h' => by
    rw [Tree.value?, Option.map_eq_some_iff] at h h'
    obtain ⟨values, -, rfl⟩ := h
    obtain ⟨values', -, rfl⟩ := h'
    rfl
theorem MembersGrow.entries_eq {view : View} {members members' : List (Option String × Tree)} :
    MembersGrow view members members' → ∀ {read read' values values' : List (String × Json)},
      view.entries View.seen read = view.entries View.seen read' →
      memberValues read members = some values → memberValues read' members' = some values' →
      view.entries View.seen values = view.entries View.seen values'
  | .done, read, read', values, values', hs, h, h' => by
    obtain rfl := Option.some.inj h
    obtain rfl := Option.some.inj h'
    exact hs
  | .added hm hrest, read, read', values, values', hs, h, h' => by
    rw [memberValues, Option.bind_some, Option.bind_eq_some_iff] at h'
    obtain ⟨value', -, h'⟩ := h'
    refine hrest.entries_eq ?_ h h'
    rw [entries_insert_of_none hm, hs]
  | .passed hm hrest, read, read', values, values', hs, h, h' => by
    rw [memberValues, Option.bind_some, Option.bind_eq_some_iff] at h h'
    obtain ⟨value, -, h⟩ := h
    obtain ⟨value', -, h'⟩ := h'
    refine hrest.entries_eq ?_ h h'
    rw [entries_insert_of_none hm, entries_insert_of_none hm, hs]
  | .kept hm hvalue hrest, read, read', values, values', hs, h, h' => by
    rw [memberValues, Option.bind_some, Option.bind_eq_some_iff] at h h'
    obtain ⟨value, hv, h⟩ := h
    obtain ⟨value', hv', h'⟩ := h'
    refine hrest.entries_eq ?_ h h'
    rw [entries_insert_of_some hm, entries_insert_of_some hm, hs, hvalue.seen_eq hv hv']
end

end View

end TypedClient.Api

/-! ### Shapes -/

namespace TypedClient.Json

open TypedClient.Api (View)

/-- The names of members. -/
def Fields.names : Fields → List String
  | .done => []
  | .field name _ _ rest => name :: rest.names

section Seen

variable {α : Type}

/-- What is seen of a value that is looked at as a whole or not at all. -/
def seenWhole (missing : α) : View → α → α
  | .whole, value => value
  | _, _ => missing

/-- What is seen of a value that may be null. -/
def seenOptional (seen : View → α → α) : View → Option α → Option α
  | .whole, value => value
  | view, value => value.map (seen view)

/-- What is seen of values of one kind. -/
def seenList (seen : View → α → α) : View → List α → List α
  | .list item, values => values.map (seen item)
  | view, values => seenWhole [] view values

/-- What is seen of values of one kind under names. -/
def seenMap (seen : View → α → α) : View → List (String × α) → List (String × α)
  | .map hidden entry, values => (View.map hidden entry).entries seen values
  | view, values => seenWhole [] view values

/-- What is seen of the values of members of given names, which have to be those of the view. -/
def seenRecord (names : List String) (seen : View → α → α) (missing : α) : View → α → α
  | .record members, values =>
    if names = members.map Prod.fst then seen (.record members) values else missing
  | view, values => seenWhole missing view values

/-! What is seen is the same of two values that are the same where the whole is looked at, and of
which the parts that are looked at are the same elsewhere. -/

section Congr

variable {view : View} {seen : View → α → α} {missing : α}

theorem seenWhole_congr {v v' : α} (h : view = .whole → v = v') :
    seenWhole missing view v = seenWhole missing view v' := by
  cases view with
  | whole => rw [h rfl]
  | _ => rfl

theorem seenOptional_congr {v v' : Option α} (h : view = .whole → v = v')
    (hsome : v.map (seen view) = v'.map (seen view)) :
    seenOptional seen view v = seenOptional seen view v' := by
  cases view with
  | whole => rw [h rfl]
  | _ => exact hsome

theorem seenList_congr {vs vs' : List α} (h : view = .whole → vs = vs')
    (hlist : ∀ item, view = .list item → vs.map (seen item) = vs'.map (seen item)) :
    seenList seen view vs = seenList seen view vs' := by
  cases view with
  | whole => rw [h rfl]
  | list item => exact hlist item rfl
  | _ => rfl

theorem seenMap_congr {vs vs' : List (String × α)} (h : view = .whole → vs = vs')
    (hmap : ∀ hidden entry, view = .map hidden entry →
      view.entries seen vs = view.entries seen vs') :
    seenMap seen view vs = seenMap seen view vs' := by
  cases view with
  | whole => rw [h rfl]
  | map hidden entry => exact hmap hidden entry rfl
  | _ => rfl

theorem seenRecord_congr {names : List String} {v v' : α} (h : view = .whole → v = v')
    (hrecord : ∀ members, view = .record members → names = members.map Prod.fst →
      seen view v = seen view v') :
    seenRecord names seen missing view v = seenRecord names seen missing view v' := by
  cases view with
  | whole => rw [h rfl]
  | record members =>
    by_cases hnames : names = members.map Prod.fst
    · rw [seenRecord, seenRecord, if_pos hnames, if_pos hnames]
      exact hrecord members rfl hnames
    · rw [seenRecord, seenRecord, if_neg hnames, if_neg hnames]
  | _ => rfl

end Congr

end Seen

mutual
/-- What is seen of a value of a shape. A view that does not fit the shape sees nothing of it. -/
def Shape.seen : (shape : Shape) → View → shape.Carrier → shape.Carrier
  | .text => seenWhole ""
  | .flag => seenWhole false
  | .any => View.seen
  | .optional inner => seenOptional inner.seen
  | .list item => seenList item.seen
  | .map value => seenMap value.seen
  | .choice _ default => seenWhole default
  | .record _ fields => seenRecord fields.names fields.seen fields.missing
/-- What is seen of the members of an object. -/
def Fields.seen : (fields : Fields) → View → fields.Carrier → fields.Carrier
  | .done, _ => id
  | .field name _ shape rest, view => fun values =>
    (((view.member name).map fun inner => shape.seen inner values.1).getD shape.missing,
      rest.seen view values.2)
end

/-- What is seen of the members read so far. -/
def Fields.seenSlots : (fields : Fields) → View → fields.Slots → fields.Slots
  | .done, _ => id
  | .field name _ shape rest, view => fun slots =>
    ((view.member name).bind fun inner => slots.1.map (shape.seen inner),
      rest.seenSlots view slots.2)

section Field

variable {key : String} {required : Bool} {shape : Shape} {rest : Fields}

/-- A member is put into the first place if that has its name and is empty, or else into those after
it. -/
theorem Fields.put_cases {name : String} {value : Tree}
    {slots next : (Fields.field key required shape rest).Slots}
    (h : (Fields.field key required shape rest).put name value slots = some next) :
    (key = name ∧ slots.1 = none ∧ next.2 = slots.2 ∧
        ∃ v, shape.decode value = some v ∧ next.1 = some v) ∨
      (key ≠ name ∧ next.1 = slots.1 ∧ rest.put name value slots.2 = some next.2) := by
  obtain ⟨slot, slots⟩ := slots
  simp only [Fields.put] at h
  split at h
  · next hkey =>
    split at h
    · simp at h
    · obtain ⟨v, hv, rfl⟩ := Option.map_eq_some_iff.mp h
      exact Or.inl ⟨hkey, rfl, rfl, v, hv, rfl⟩
  · next hkey =>
    obtain ⟨filled, hfilled, rfl⟩ := Option.map_eq_some_iff.mp h
    exact Or.inr ⟨hkey, rfl, hfilled⟩

/-- A place that is still empty is filled with what its shape holds when it is missing. -/
theorem Fields.fill_field {slots : (Fields.field key required shape rest).Slots}
    {values : (Fields.field key required shape rest).Carrier}
    (h : (Fields.field key required shape rest).fill slots = .ok values) :
    values.1 = slots.1.getD shape.missing ∧ rest.fill slots.2 = .ok values.2 := by
  obtain ⟨slot, slots⟩ := slots
  cases slot with
  | none =>
    cases required with
    | true => simp [Fields.fill] at h
    | false =>
      obtain ⟨others, hothers, rfl⟩ := map_eq_ok_iff.mp h
      exact ⟨rfl, hothers⟩
  | some value =>
    obtain ⟨others, hothers, rfl⟩ := map_eq_ok_iff.mp h
    exact ⟨rfl, hothers⟩

end Field

/-- A member that is not looked at changes nothing of what is seen. -/
theorem Fields.seenSlots_put_of_none {view : View} {name : String} (hm : view.member name = none)
    {value : Tree} : (fields : Fields) → {slots next : fields.Slots} →
    fields.put name value slots = some next → fields.seenSlots view next = fields.seenSlots view slots
  | .done, _, _, _ => rfl
  | .field key _ shape rest, slots, next, h => by
    rcases Fields.put_cases h with ⟨rfl, -, hrest, -⟩ | ⟨-, hfirst, hput⟩
    · simp only [seenSlots, hm, Option.bind_none, hrest]
      rfl
    · simp only [seenSlots, hfirst, rest.seenSlots_put_of_none hm hput]
      rfl

/-- What is seen of members once all have been read depends on what is seen of them before. -/
theorem Fields.seen_fill {view : View} : (fields : Fields) → {slots slots' : fields.Slots} →
    {values values' : fields.Carrier} → fields.seenSlots view slots = fields.seenSlots view slots' →
    fields.fill slots = .ok values → fields.fill slots' = .ok values' →
    fields.seen view values = fields.seen view values'
  | .done, _, _, _, _, _, _, _ => rfl
  | .field key _ shape rest, slots, slots', values, values', hs, h, h' => by
    obtain ⟨hfirst, hrest⟩ := fill_field h
    obtain ⟨hfirst', hrest'⟩ := fill_field h'
    have hslots := Prod.mk.inj hs
    have hothers := rest.seen_fill hslots.2 hrest hrest'
    simp only [seen, hfirst, hfirst', hothers]
    cases hm : view.member key with
    | none => rfl
    | some inner =>
      have hslot := hslots.1
      rw [hm, Option.bind_some, Option.bind_some] at hslot
      rw [Option.map_some, Option.map_some, Option.getD_some, Option.getD_some,
        ← Option.getD_map (shape.seen inner), ← Option.getD_map (shape.seen inner), hslot]

/-- The members of an object that is decoded are put into their places first. -/
theorem exists_of_decode_object {name : String} {fields : Fields}
    {members : List (Option String × Tree)} {value : fields.Carrier}
    (h : (Shape.record name fields).decode (.object members) = some value) :
    ∃ slots, foldMembers fields.put fields.noSlots members = some slots ∧
      fields.fill slots = .ok value := by
  obtain ⟨slots, hslots, hfill⟩ := Option.bind_eq_some_iff.mp h
  refine ⟨slots, hslots, ?_⟩
  cases hf : fields.fill slots with
  | error key => simp [hf, Except.toOption] at hfill
  | ok filled =>
    rw [hf] at hfill
    exact congrArg Except.ok (Option.some.inj hfill)

theorem exists_of_optionalOf? {α : Type} {decode : Tree → Option α} {tree : Tree}
    {value : Option α} (hnull : tree ≠ .scalar .null) (h : optionalOf? decode tree = some value) :
    ∃ v, decode tree = some v ∧ some v = value := by
  rwa [optionalOf?, Option.map_eq_some_iff] at h
  exact hnull

theorem eq_of_grows_whole {α : Type} {decode : Tree → Option α} {view : View} {tree tree' : Tree}
    {value value' : α} (hg : view.Grows tree tree') (h : decode tree = some value)
    (h' : decode tree' = some value') (hview : view = .whole) : value = value' := by
  subst hview
  obtain rfl := hg.eq_of_whole
  exact Option.some.inj (h.symm.trans h')

mutual
/-- What a view leaves of what a tree holds as a value of a shape is not changed by additions that the
view does not look at. -/
theorem Shape.seen_eq_of_grows : (shape : Shape) → {view : View} → {tree tree' : Tree} →
    {value value' : shape.Carrier} → view.Grows tree tree' → shape.decode tree = some value →
    shape.decode tree' = some value' → shape.seen view value = shape.seen view value'
  | .text, view, tree, tree', value, value', hg, h, h' =>
    seenWhole_congr (eq_of_grows_whole hg h h')
  | .flag, view, tree, tree', value, value', hg, h, h' =>
    seenWhole_congr (eq_of_grows_whole hg h h')
  | .any, view, tree, tree', value, value', hg, h, h' => hg.seen_eq h h'
  | .optional inner, view, tree, tree', value, value', hg, h, h' => by
    refine seenOptional_congr (eq_of_grows_whole hg h h') ?_
    by_cases hnull : tree = .scalar .null
    · subst hnull
      obtain rfl := hg.eq_of_scalar
      rw [Option.some.inj (h.symm.trans h')]
    · have hnull' : tree' ≠ .scalar .null := by
        rintro rfl
        exact hnull hg.eq_scalar
      obtain ⟨v, hv, rfl⟩ := exists_of_optionalOf? hnull h
      obtain ⟨v', hv', rfl⟩ := exists_of_optionalOf? hnull' h'
      exact congrArg some (inner.seen_eq_of_grows hg hv hv')
  | .list item, view, tree, tree', value, value', hg, h, h' => by
    refine seenList_congr (eq_of_grows_whole hg h h') fun inner hview => ?_
    subst hview
    cases hg with
    | same => rw [Option.some.inj (h.symm.trans h')]
    | object => simp [Shape.decode, listOf?] at h
    | list hitems => exact hitems.map_seen_eq item.seen_eq_of_grows h h'
  | .map entry, view, tree, tree', value, value', hg, h, h' => by
    refine seenMap_congr (eq_of_grows_whole hg h h') fun hidden inner hview => ?_
    subst hview
    cases hg with
    | same => rw [Option.some.inj (h.symm.trans h')]
    | object hgrows =>
      refine hgrows.foldMembers_eq ((View.map hidden inner).entries entry.seen) ?_ ?_ rfl h h'
      · intro name value read next hm hput
        obtain ⟨v, -, rfl⟩ := Option.map_eq_some_iff.mp hput
        exact View.entries_insert_of_none hm v read
      · intro name inner value value' read read' next next' hm hvalue hs hput hput'
        obtain ⟨v, hv, rfl⟩ := Option.map_eq_some_iff.mp hput
        obtain ⟨v', hv', rfl⟩ := Option.map_eq_some_iff.mp hput'
        rw [View.entries_insert_of_some hm, View.entries_insert_of_some hm, hs,
          entry.seen_eq_of_grows hvalue hv hv']
  | .choice words default, view, tree, tree', value, value', hg, h, h' =>
    seenWhole_congr (eq_of_grows_whole hg h h')
  | .record name fields, view, tree, tree', value, value', hg, h, h' => by
    refine seenRecord_congr (eq_of_grows_whole hg h h') fun members hview hnames => ?_
    subst hview
    cases hg with
    | same => rw [Option.some.inj (h.symm.trans h')]
    | object hgrows =>
      obtain ⟨slots, hslots, hfill⟩ := exists_of_decode_object h
      obtain ⟨slots', hslots', hfill'⟩ := exists_of_decode_object h'
      refine fields.seen_fill ?_ hfill hfill'
      exact hgrows.foldMembers_eq (fields.seenSlots (.record members))
        (fun hm hput => fields.seenSlots_put_of_none hm hput)
        (fun hm hvalue hs hput hput' => fields.seenSlots_put_of_some hm hvalue hs hput hput')
        rfl hslots hslots'
    | record hvalues =>
      rw [← hnames] at hvalues
      exact fields.seen_decodeItems hvalues h h'
theorem Fields.seenSlots_put_of_some : (fields : Fields) → {view inner : View} → {name : String} →
    view.member name = some inner → {tree tree' : Tree} → inner.Grows tree tree' →
    {slots slots' next next' : fields.Slots} →
    fields.seenSlots view slots = fields.seenSlots view slots' →
    fields.put name tree slots = some next → fields.put name tree' slots' = some next' →
    fields.seenSlots view next = fields.seenSlots view next'
  | .done, _, _, _, _, _, _, _, _, _, _, _, _, _, _ => rfl
  | .field key _ shape rest, view, inner, name, hm, tree, tree', hg, slots, slots',
      next, next', hs, h, h' => by
    obtain ⟨hfirst, hrest⟩ := Prod.mk.inj hs
    rcases Fields.put_cases h with ⟨rfl, -, hothers, v, hv, hnext⟩ | ⟨hkey, hnext, hput⟩
    · rcases Fields.put_cases h' with ⟨-, -, hothers', v', hv', hnext'⟩ | ⟨hne, -⟩
      · have hvalue := shape.seen_eq_of_grows hg hv hv'
        refine Prod.ext ?_ ?_
        · simp only [Fields.seenSlots, hm, hnext, hnext', Option.bind_some, Option.map_some, hvalue]
        · simp only [Fields.seenSlots, hothers, hothers', hrest]
      · exact absurd rfl hne
    · rcases Fields.put_cases h' with ⟨he, -⟩ | ⟨-, hnext', hput'⟩
      · exact absurd he hkey
      · have hothers := rest.seenSlots_put_of_some hm hg hrest hput hput'
        refine Prod.ext ?_ hothers
        simp only [Fields.seenSlots, hnext, hnext', hfirst]
theorem Fields.seen_decodeItems : (fields : Fields) → {view : View} → {items items' : List Tree} →
    {values values' : fields.Carrier} → view.ValuesGrow fields.names items items' →
    fields.decodeItems items = some values → fields.decodeItems items' = some values' →
    fields.seen view values = fields.seen view values'
  | .done, _, _, _, _, _, _, _, _ => rfl
  | .field key required shape rest, view, items, items', values, values', hg, h, h' => by
    cases hg with
    | done => rw [Option.some.inj (h.symm.trans h')]
    | @item _ inner _ _ item item' items items' hm hitem hitems =>
      obtain ⟨v, hv, hrest⟩ := Option.bind_eq_some_iff.mp h
      obtain ⟨v', hv', hrest'⟩ := Option.bind_eq_some_iff.mp h'
      obtain ⟨others, hothers, rfl⟩ := Option.map_eq_some_iff.mp hrest
      obtain ⟨others', hothers', rfl⟩ := Option.map_eq_some_iff.mp hrest'
      have hvalue := shape.seen_eq_of_grows hitem hv hv'
      refine Prod.ext ?_ (rest.seen_decodeItems hitems hothers hothers')
      simp only [Fields.seen, hm, Option.map_some, Option.getD_some, hvalue]
end

end TypedClient.Json
