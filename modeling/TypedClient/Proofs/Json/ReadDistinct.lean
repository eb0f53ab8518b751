import TypedClient.Json.Shape.Read
import TypedClient.Proofs.Json.Distinct

/-!
# What is read has members of different names

A reader puts each member that it reads into the object that is open, so no object that
it has read has two members of one name. `Shape.Distinct` says this of all that a text of
a shape holds, the entries of its maps included.
-/

namespace TypedClient.Json

/-! ### Values -/

/-- Whether the outcome of a step is a result, or a state, with a property. -/
def Outcome.Keeps {σ α ε : Type} (inv : σ → Prop) (holds : α → Prop) : Outcome σ α ε → Prop
  | .done result => holds result
  | .more state => inv state
  | .failed _ => True

/-- What every step keeps, a run keeps. -/
theorem consume_keeps {σ α ε : Type} {step : σ → Token → Outcome σ α ε} {atEnd : σ → ε}
    {inv : σ → Prop} {holds : α → Prop}
    (hstep : ∀ state token, inv state → (step state token).Keeps inv holds) {state : σ}
    {ts rest : List Token} {result : α} (hs : inv state)
    (h : consume step atEnd state ts = .ok (result, rest)) : holds result := by
  fun_induction consume step atEnd state ts with
  | case1 => simp at h
  | case2 state token ts result' hdone =>
    cases h
    have hk := hstep state token hs
    rwa [hdone] at hk
  | case3 state token ts next hmore ih =>
    have hk := hstep state token hs
    rw [hmore] at hk
    exact ih hk h
  | case4 => simp at h

theorem distinct_array_iff {items : List Json} :
    (Json.array items).Distinct ↔ ∀ item ∈ items, item.Distinct := by
  rw [Distinct]
  induction items with
  | nil => simp [DistinctItems]
  | cons item rest ih => simp [DistinctItems, ih]

/-- Whether what is open has members of different names so far. -/
def Frame.Distinct : Frame → Prop
  | .array items => ∀ item ∈ items, item.Distinct
  | .object members _ => (Json.object members).Distinct

theorem Frame.Distinct.push {frame : Frame} (h : frame.Distinct) {value : Json}
    (hv : value.Distinct) : (frame.push value).Distinct := by
  cases frame with
  | array items => exact List.forall_mem_cons.mpr ⟨hv, h⟩
  | object members name => exact Json.Distinct.insert h name hv

theorem Frame.Distinct.value {frame : Frame} (h : frame.Distinct) : frame.value.Distinct := by
  cases frame with
  | array items => exact distinct_array_iff.mpr fun item hi => h item (List.mem_reverse.mp hi)
  | object members name => exact h

namespace Read

/-- Whether all that is open has members of different names. -/
def OpenDistinct (state : ReadState) : Prop := ∀ frame ∈ state.2, frame.Distinct

variable {place : Place} {stack : List Frame} {token : Token}

theorem keeps_completed {value : Json} (hv : value.Distinct)
    (h : ∀ frame ∈ stack, frame.Distinct) :
    (completed value stack).Keeps OpenDistinct Json.Distinct := by
  cases stack with
  | nil => exact hv
  | cons frame outer =>
    rw [List.forall_mem_cons] at h
    exact List.forall_mem_cons.mpr ⟨h.1.push hv, h.2⟩

theorem keeps_valueStep (h : ∀ frame ∈ stack, frame.Distinct) :
    (valueStep place stack token).Keeps OpenDistinct Json.Distinct := by
  have harray : (Frame.array []).Distinct := fun _ hi => absurd hi List.not_mem_nil
  have hobject : (Frame.object [] "").Distinct := distinct_object_iff.mpr ⟨List.nodup_nil, by simp⟩
  unfold valueStep
  dsimp only
  split
  · exact keeps_completed trivial h
  · exact keeps_completed trivial h
  · exact keeps_completed trivial h
  · trivial
  · exact keeps_completed trivial h
  · trivial
  · trivial
  · trivial
  · split
    · trivial
    · exact List.forall_mem_cons.mpr ⟨harray, h⟩
  · split
    · trivial
    · exact List.forall_mem_cons.mpr ⟨hobject, h⟩
  · trivial

theorem keeps_nameStep (h : ∀ frame ∈ stack, frame.Distinct) :
    (nameStep place stack token).Keeps OpenDistinct Json.Distinct := by
  unfold nameStep
  dsimp only
  split
  · rw [List.forall_mem_cons] at h
    exact List.forall_mem_cons.mpr ⟨h.1, h.2⟩
  · trivial
  · trivial
  · trivial

theorem keeps_separatorStep (h : ∀ frame ∈ stack, frame.Distinct) :
    (separatorStep place stack token).Keeps OpenDistinct Json.Distinct := by
  unfold separatorStep
  split
  · exact h
  · exact h
  · rw [List.forall_mem_cons] at h
    exact keeps_completed h.1.value h.2
  · rw [List.forall_mem_cons] at h
    exact keeps_completed h.1.value h.2
  · trivial
  · trivial

/-- A step puts what it has read into what is open. -/
theorem keeps_step {state : ReadState} (h : OpenDistinct state) :
    (step place state token).Keeps OpenDistinct Json.Distinct := by
  obtain ⟨expects, stack⟩ := state
  -- What is closed as soon as it is open has a frame without items or members, which goes.
  have htail : ∀ frame ∈ stack.tail, frame.Distinct :=
    fun frame hf => h frame (List.mem_of_mem_tail hf)
  have harray : (Json.array []).Distinct := trivial
  have hobject : (Json.object []).Distinct := distinct_object_iff.mpr ⟨List.nodup_nil, by simp⟩
  cases expects with
  | value => exact keeps_valueStep h
  | firstItem =>
    rw [step]
    split
    · exact keeps_completed harray htail
    · exact keeps_valueStep h
  | nextItem =>
    rw [step]
    split
    · trivial
    · exact keeps_valueStep h
  | firstName =>
    rw [step]
    split
    · exact keeps_completed hobject htail
    · exact keeps_nameStep h
  | nextName =>
    rw [step]
    split
    · trivial
    · exact keeps_nameStep h
  | colon =>
    rw [step]
    split
    · exact h
    · trivial
  | separator => exact keeps_separatorStep h

end Read

/-! ### Readers -/

/-- Whether all that a reader reads has a property. -/
def Yields {α : Type} (reader : Reader α) (holds : α → Prop) : Prop :=
  ∀ place ts taken, reader place ts = .ok taken → holds taken.value

theorem yields_readAny : Yields readAny Distinct := by
  intro place ts taken h
  rw [readAny, consumeTaken] at h
  split at h
  · next hrun =>
    cases h
    have hopen : Read.OpenDistinct (.value, []) := fun _ hf => absurd hf List.not_mem_nil
    exact consume_keeps (fun _ _ => Read.keeps_step) hopen hrun
  · simp at h

theorem map_eq_ok_iff {ε α β : Type} {f : α → β} {read : Except ε α} {value : β} :
    read.map f = .ok value ↔ ∃ a, read = .ok a ∧ f a = value := by
  cases read <;> simp [Except.map]

section Readers

variable {α : Type} {reader : Reader α} {holds : α → Prop} (hreader : Yields reader holds)
include hreader

theorem yields_readOptional :
    Yields (readOptional reader) fun read => ∀ value ∈ read, holds value := by
  have hsome : ∀ place ts taken, (reader place ts).map (·.map some) = .ok taken →
      ∀ value ∈ taken.value, holds value := by
    intro place ts taken h value hv
    obtain ⟨inner, hinner, rfl⟩ := map_eq_ok_iff.mp h
    obtain rfl := Option.some.inj hv
    exact hreader place ts inner hinner
  intro place ts taken h
  match ts with
  | [] => exact hsome place [] taken h
  | token :: rest =>
    unfold readOptional at h
    dsimp only at h
    split at h
    · cases h
      exact fun value hv => absurd hv (Option.not_mem_none value)
    · exact hsome place _ taken h

theorem forall_mem_readItems {place : Place} {index : Nat} {read : List α} {ts : List Token}
    {taken : Taken (List α) ts} (hread : ∀ value ∈ read, holds value)
    (h : readItems reader place index read ts = .ok taken) :
    ∀ value ∈ taken.value, holds value := by
  fun_induction readItems reader place index read ts with
  | case2 index read next more hclose =>
    cases h
    exact fun value hv => hread value (List.mem_reverse.mp hv)
  | case7 read next n hcomma first more item items hopen hitem hitems ih =>
    simp only [hitem, hitems] at h
    cases h
    exact ih (List.forall_mem_cons.mpr ⟨hreader _ _ item hitem, hread⟩) hitems
  | case10 read next more item hitem items hitems hopen ih =>
    cases h
    exact ih (List.forall_mem_cons.mpr ⟨hreader _ _ item hitem, hread⟩) hitems
  | _ => simp_all

theorem yields_readList : Yields (readList reader) fun read => ∀ value ∈ read, holds value := by
  intro place ts taken h
  match ts with
  | [] => simp [readList] at h
  | token :: rest =>
    unfold readList at h
    dsimp only at h
    split at h
    · split at h
      · simp at h
      · obtain ⟨items, hitems, rfl⟩ := map_eq_ok_iff.mp h
        have hall : ∀ value ∈ items.value, holds value :=
          forall_mem_readItems hreader (List.forall_mem_nil _) hitems
        exact hall
    · simp at h

theorem holds_of_readMember {name : String} {place : Place} {ts : List Token} {taken : Taken α ts}
    (h : readMember reader name place ts = .ok taken) : holds taken.value := by
  unfold readMember at h
  split at h
  · simp at h
  · split at h
    · simp at h
    · next inner hvalue =>
      cases h
      exact hreader _ _ inner hvalue

end Readers

/-- What each member keeps, all members keep. -/
theorem readMembers_keeps {σ : Type} {visit : MemberReader σ} {inv : σ → Prop}
    (hvisit : ∀ name state place ts taken, inv state → visit name state place ts = .ok taken →
      inv taken.value)
    {place : Place} {first : Bool} {state : σ} {ts : List Token} {taken : Taken (σ × Nat) ts}
    (hs : inv state) (h : readMembers visit place first state ts = .ok taken) :
    inv taken.value.1 := by
  fun_induction readMembers visit place first state ts with
  | case2 first state next more hclose =>
    cases h
    exact hs
  | case8 state next hcomma token more name hname member hmember members hmembers hopen ih =>
    cases h
    exact ih (hvisit _ _ _ _ member hs hmember) hmembers
  | case12 state next more name hname member hmember members hmembers hopen ih =>
    cases h
    exact ih (hvisit _ _ _ _ member hs hmember) hmembers
  | _ => simp at h

/-- A map that is read has one entry of each key. -/
theorem yields_readMap {α : Type} {reader : Reader α} {holds : α → Prop}
    (hreader : Yields reader holds) :
    Yields (readMap reader) (IsMapOf holds) := by
  intro place ts taken h
  match ts with
  | [] => simp [readMap] at h
  | token :: rest =>
    unfold readMap at h
    dsimp only at h
    split at h
    · split at h
      · simp at h
      · obtain ⟨members, hmembers, rfl⟩ := map_eq_ok_iff.mp h
        refine readMembers_keeps ?_ (isMapOf_nil holds) hmembers
        intro name read place ts taken hread hvisit
        obtain ⟨member, hmember, rfl⟩ := map_eq_ok_iff.mp hvisit
        exact hread.insert name (holds_of_readMember hreader hmember)
    · simp at h

/-! ### Shapes -/

mutual
/-- Whether what a shape holds has, in every object and every map, one member of each name. -/
def Shape.Distinct : (shape : Shape) → shape.Carrier → Prop
  | .any, value => Json.Distinct value
  | .optional inner, read => ∀ value, read = some value → inner.Distinct value
  | .list item, (items : List item.Carrier) => ∀ value ∈ items, item.Distinct value
  | .map value, entries => IsMapOf value.Distinct entries
  | .record _ fields, values => fields.Distinct values
  | _, _ => True
/-- Whether what members hold has one member of each name in every object and every map. -/
def Fields.Distinct : (fields : Fields) → fields.Carrier → Prop
  | .done, _ => True
  | .field _ _ shape rest, (value, values) => shape.Distinct value ∧ rest.Distinct values
end

/-- Whether what has been read of the members so far has one member of each name in every object
and every map. -/
def Fields.SlotsDistinct : (fields : Fields) → fields.Slots → Prop
  | .done, _ => True
  | .field _ _ shape rest, (slot, slots) =>
    (∀ value, slot = some value → shape.Distinct value) ∧ rest.SlotsDistinct slots

mutual
theorem Shape.distinct_missing (shape : Shape) : shape.Distinct shape.missing := by
  cases shape with
  | text => trivial
  | flag => trivial
  | any => trivial
  | optional inner => exact fun value hv => absurd hv (by simp [Shape.missing])
  | list item => exact List.forall_mem_nil _
  | map value => exact isMapOf_nil _
  | choice words default => trivial
  | record name fields => exact fields.distinct_missing
theorem Fields.distinct_missing (fields : Fields) : fields.Distinct fields.missing := by
  cases fields with
  | done => trivial
  | field name required shape rest => exact ⟨shape.distinct_missing, rest.distinct_missing⟩
end

theorem Fields.slotsDistinct_noSlots (fields : Fields) : fields.SlotsDistinct fields.noSlots := by
  match fields with
  | .done => trivial
  | .field name required shape rest =>
    have hnone : ∀ value, (none : Option shape.Carrier) = some value → shape.Distinct value :=
      fun value hv => absurd hv (by simp)
    exact ⟨hnone, rest.slotsDistinct_noSlots⟩

/-- What the members hold is what was read of them, and what they hold when they are missing. -/
theorem Fields.distinct_of_fill {fields : Fields} {slots : fields.Slots} {values : fields.Carrier}
    (hs : fields.SlotsDistinct slots) (h : fields.fill slots = .ok values) :
    fields.Distinct values := by
  match fields, slots with
  | .done, _ => trivial
  | .field name required shape rest, (slot, slots) =>
    simp only [Fields.fill] at h
    split at h
    · simp at h
    · obtain ⟨others, hothers, rfl⟩ := map_eq_ok_iff.mp h
      exact ⟨shape.distinct_missing, Fields.distinct_of_fill hs.2 hothers⟩
    · obtain ⟨others, hothers, rfl⟩ := map_eq_ok_iff.mp h
      exact ⟨hs.1 _ rfl, Fields.distinct_of_fill hs.2 hothers⟩

mutual
/-- All that is read of a text of a shape has one member of each name in every object and every
map. -/
theorem Shape.yields_read (shape : Shape) : Yields shape.read shape.Distinct := by
  cases shape with
  | text => exact fun _ _ _ _ => trivial
  | flag => exact fun _ _ _ _ => trivial
  | any => exact yields_readAny
  | optional inner => exact yields_readOptional inner.yields_read
  | list item => exact yields_readList item.yields_read
  | map value => exact yields_readMap value.yields_read
  | choice words default => exact fun _ _ _ _ => trivial
  | record name fields =>
    intro place ts taken h
    match ts with
    | [] => simp [Shape.read] at h
    | token :: rest =>
      unfold Shape.read at h
      dsimp only at h
      split at h
      · split at h
        · simp at h
        · split at h
          · simp at h
          · next members hmembers =>
            split at h
            · simp at h
            · next values hvalues =>
              cases h
              have hslots := readMembers_keeps (fun name state place ts taken hs hv =>
                fields.slotsDistinct_of_readInto hs hv) fields.slotsDistinct_noSlots hmembers
              exact Fields.distinct_of_fill hslots hvalues
      · split at h
        · simp at h
        · split at h
          · simp at h
          · next items hitems =>
            split at h
            · simp at h
            · cases h
              exact fields.distinct_of_readItems hitems
      · simp at h
theorem Fields.slotsDistinct_of_readInto (fields : Fields) {name : String} {slots : fields.Slots}
    {place : Place} {ts : List Token} {taken : Taken fields.Slots ts}
    (hs : fields.SlotsDistinct slots) (h : fields.readInto name slots place ts = .ok taken) :
    fields.SlotsDistinct taken.value := by
  match fields, slots with
  | .done, _ => trivial
  | .field key required shape rest, (slot, slots) =>
    simp only [Fields.readInto] at h
    split at h
    · split at h
      · simp at h
      · obtain ⟨member, hmember, rfl⟩ := map_eq_ok_iff.mp h
        refine ⟨fun value hv => ?_, hs.2⟩
        obtain rfl := Option.some.inj hv
        exact holds_of_readMember shape.yields_read hmember
    · obtain ⟨others, hothers, rfl⟩ := map_eq_ok_iff.mp h
      exact ⟨hs.1, rest.slotsDistinct_of_readInto hs.2 hothers⟩
theorem Fields.distinct_of_readItems (fields : Fields) {wanted : String} {index : Nat}
    {place : Place} {ts : List Token} {left : Left fields.Carrier ts}
    (h : fields.readItems wanted index place ts = .ok left) : fields.Distinct left.value := by
  match fields with
  | .done => trivial
  | .field name required shape rest =>
    unfold Fields.readItems at h
    split at h
    · simp at h
    · split at h
      · simp at h
      · split at h
        · simp at h
        · next others hothers =>
          cases h
          exact ⟨shape.distinct_missing, rest.distinct_of_readItems hothers⟩
    · split at h
      · simp at h
      · next item hitem =>
        split at h
        · simp at h
        · next others hothers =>
          cases h
          exact ⟨shape.yields_read _ _ item hitem, rest.distinct_of_readItems hothers⟩
end

theorem Shape.distinct_of_readText {shape : Shape} {bytes : List UInt8} {read : shape.Carrier}
    (h : shape.readText bytes = .ok read) : shape.Distinct read := by
  obtain ⟨taken, htaken, rfl⟩ := map_eq_ok_iff.mp h
  exact shape.yields_read _ _ taken htaken

end TypedClient.Json
