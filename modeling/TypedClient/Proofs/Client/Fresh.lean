import Mathlib
import TypedClient.Client.Compile

/-!
# The first of each key

`keepFresh` keeps the first entry of each key that is not taken, so the keys it keeps
are distinct and are exactly the free keys of all entries. `freshness` says of each entry
whether it is kept: those that are make up `keepFresh`, and the keys of the others
`leftOut`, so that no entry is lost and none counts twice. `freshBy` says the same of
values that have keys of their own.
-/

namespace TypedClient.Client

variable {α : Type}

/-- What is kept keeps its order. -/
theorem keepFresh_sublist (taken : List String) (entries : List (String × α)) :
    (keepFresh taken entries).Sublist entries := by
  fun_induction keepFresh taken entries with
  | case1 => exact List.Sublist.refl _
  | case2 taken key value rest h ih => exact ih.cons _
  | case3 taken key value rest h ih => exact ih.cons_cons _

/-- A key is kept exactly when some entry has it and it is not taken. -/
theorem mem_keys_keepFresh {taken : List String} {entries : List (String × α)} {key : String} :
    key ∈ (keepFresh taken entries).map Prod.fst ↔
      key ∉ taken ∧ key ∈ entries.map Prod.fst := by
  fun_induction keepFresh taken entries with
  | case1 => simp
  | case2 taken k value rest h ih =>
    rw [ih, List.map_cons, List.mem_cons]
    constructor
    · rintro ⟨ht, hm⟩
      exact ⟨ht, Or.inr hm⟩
    · rintro ⟨ht, rfl | hm⟩
      · exact absurd h ht
      · exact ⟨ht, hm⟩
  | case3 taken k value rest h ih =>
    rw [List.map_cons, List.mem_cons, ih, List.map_cons, List.mem_cons, List.mem_cons, not_or]
    constructor
    · rintro (rfl | ⟨⟨-, ht⟩, hm⟩)
      · exact ⟨h, Or.inl rfl⟩
      · exact ⟨ht, Or.inr hm⟩
    · rintro ⟨ht, hk⟩
      by_cases he : key = k
      · exact Or.inl he
      · exact Or.inr ⟨⟨he, ht⟩, hk.resolve_left he⟩

/-- No two entries that are kept have one key. -/
theorem nodup_keys_keepFresh (taken : List String) (entries : List (String × α)) :
    ((keepFresh taken entries).map Prod.fst).Nodup := by
  fun_induction keepFresh taken entries with
  | case1 => exact List.nodup_nil
  | case2 taken key value rest h ih => exact ih
  | case3 taken key value rest h ih =>
    rw [List.map_cons, List.nodup_cons]
    refine ⟨?_, ih⟩
    rw [mem_keys_keepFresh]
    exact fun hk => hk.1 (by simp)

/-! ### Kept or left out -/

/-- The entries, each with whether its key is neither taken nor the key of an entry before. -/
def freshness (taken : List String) : List (String × α) → List ((String × α) × Bool)
  | [] => []
  | entry :: rest =>
    if entry.1 ∈ taken then (entry, false) :: freshness taken rest
    else (entry, true) :: freshness (entry.1 :: taken) rest

theorem map_fst_freshness (taken : List String) (entries : List (String × α)) :
    (freshness taken entries).map Prod.fst = entries := by
  fun_induction freshness taken entries with
  | case1 => rfl
  | case2 taken entry rest h ih => rw [List.map_cons, ih]
  | case3 taken entry rest h ih => rw [List.map_cons, ih]

theorem keepFresh_eq_filter (taken : List String) (entries : List (String × α)) :
    keepFresh taken entries = ((freshness taken entries).filter Prod.snd).map Prod.fst := by
  fun_induction freshness taken entries with
  | case1 => rfl
  | case2 taken entry rest h ih => rw [keepFresh, if_pos h, ih, List.filter_cons_of_neg (by simp)]
  | case3 taken entry rest h ih =>
    rw [keepFresh, if_neg h, ih, List.filter_cons_of_pos rfl, List.map_cons]

theorem leftOut_eq_filter (taken : List String) (entries : List (String × α)) :
    leftOut taken entries =
      ((freshness taken entries).filter fun e => !e.2).map fun e => e.1.1 := by
  fun_induction freshness taken entries with
  | case1 => rfl
  | case2 taken entry rest h ih =>
    rw [leftOut, if_pos h, ih, List.filter_cons_of_pos rfl, List.map_cons]
  | case3 taken entry rest h ih => rw [leftOut, if_neg h, ih, List.filter_cons_of_neg (by simp)]

/-- Which keys are taken matters, not in which order. -/
theorem freshness_congr {taken taken' : List String} (h : ∀ key, key ∈ taken ↔ key ∈ taken')
    (entries : List (String × α)) : freshness taken entries = freshness taken' entries := by
  induction entries generalizing taken taken' with
  | nil => rfl
  | cons entry rest ih =>
    have hcons : ∀ key, key ∈ entry.1 :: taken ↔ key ∈ entry.1 :: taken' := fun key => by
      rw [List.mem_cons, List.mem_cons, h key]
    rw [freshness, freshness, ih h, ih hcons]
    simp only [h entry.1]

/-- The keys of entries are taken for the entries after them, kept or not. -/
theorem freshness_append (taken : List String) (first others : List (String × α)) :
    freshness taken (first ++ others) =
      freshness taken first ++ freshness (first.map Prod.fst ++ taken) others := by
  induction first generalizing taken with
  | nil => rfl
  | cons entry rest ih =>
    rw [List.cons_append, freshness, freshness, ih, ih, List.map_cons]
    split
    · next h =>
      have hkeys : ∀ key, key ∈ rest.map Prod.fst ++ taken ↔
          key ∈ entry.1 :: rest.map Prod.fst ++ taken := by
        intro key
        rw [List.cons_append, List.mem_cons, or_iff_right_of_imp]
        rintro rfl
        exact List.mem_append_right _ h
      rw [List.cons_append, freshness_congr hkeys]
    · have hkeys : ∀ key, key ∈ rest.map Prod.fst ++ entry.1 :: taken ↔
          key ∈ entry.1 :: rest.map Prod.fst ++ taken := by
        intro key
        rw [List.mem_append, List.mem_cons, List.cons_append, List.mem_cons, List.mem_append]
        exact or_left_comm
      rw [List.cons_append, freshness_congr hkeys]

/-- Of entries with different keys those are left out whose key is taken. -/
theorem freshness_of_nodup {entries : List (String × α)} (h : (entries.map Prod.fst).Nodup)
    (taken : List String) :
    freshness taken entries = entries.map fun e => (e, decide (e.1 ∉ taken)) := by
  induction entries generalizing taken with
  | nil => rfl
  | cons entry rest ih =>
    rw [List.map_cons, List.nodup_cons] at h
    rw [freshness, ih h.2, ih h.2, List.map_cons]
    split
    · next ht => simp [ht]
    · next ht =>
      have hrest : (rest.map fun e => (e, decide (e.1 ∉ entry.1 :: taken))) =
          rest.map fun e => (e, decide (e.1 ∉ taken)) := by
        refine List.map_congr_left fun e he => ?_
        have hne : e.1 ≠ entry.1 := fun hk => h.1 (hk ▸ List.mem_map_of_mem he)
        simp [hne]
      rw [hrest]
      simp [ht]

/-- Only the keys of entries decide which are kept. -/
theorem freshness_map {β : Type} (f : String × α → β) (taken : List String)
    (entries : List (String × α)) :
    freshness taken (entries.map fun e => (e.1, f e)) =
      (freshness taken entries).map fun e => ((e.1.1, f e.1), e.2) := by
  fun_induction freshness taken entries with
  | case1 => rfl
  | case2 taken entry rest h ih => rw [List.map_cons, freshness, if_pos h, ih, List.map_cons]
  | case3 taken entry rest h ih => rw [List.map_cons, freshness, if_neg h, ih, List.map_cons]

/-- An entry is kept if its key is neither taken nor that of an entry before. -/
theorem isFresh_iff {taken : List String} {entries : List (String × α)}
    {before after : List ((String × α) × Bool)} {entry : String × α} {isFresh : Bool}
    (h : freshness taken entries = before ++ (entry, isFresh) :: after) :
    isFresh = true ↔ entry.1 ∉ taken ∧ entry.1 ∉ before.map fun e => e.1.1 := by
  induction before generalizing taken entries with
  | nil =>
    cases entries with
    | nil => simp [freshness] at h
    | cons first rest =>
      rw [freshness] at h
      split at h <;> simp_all
  | cons earlier before ih =>
    cases entries with
    | nil => simp [freshness] at h
    | cons first rest =>
      rw [freshness] at h
      split at h
      · next ht =>
        obtain ⟨rfl, hrest⟩ := List.cons.inj h
        rw [ih hrest, List.map_cons, List.mem_cons, not_or]
        have hne : entry.1 ∉ taken → entry.1 ≠ first.1 := fun hn he => hn (he ▸ ht)
        exact ⟨fun hn => ⟨hn.1, hne hn.1, hn.2⟩, fun hn => ⟨hn.1, hn.2.2⟩⟩
      · obtain ⟨rfl, hrest⟩ := List.cons.inj h
        rw [ih hrest, List.mem_cons, not_or, List.map_cons, List.mem_cons, not_or]
        exact ⟨fun hn => ⟨hn.1.2, hn.1.1, hn.2⟩, fun hn => ⟨⟨hn.2.1, hn.1⟩, hn.2.2⟩⟩

/-! ### Values under keys of their own -/

/-- The values, each with whether its key is neither taken nor the key of a value before. -/
def freshBy (key : α → String) (taken : List String) (values : List α) : List (α × Bool) :=
  (freshness taken (values.map fun v => (key v, v))).map fun e => (e.1.2, e.2)

section FreshBy

variable {key : α → String} {taken : List String} {values : List α}

theorem freshBy_cons (v : α) (rest : List α) :
    freshBy key taken (v :: rest) =
      if key v ∈ taken then (v, false) :: freshBy key taken rest
      else (v, true) :: freshBy key (key v :: taken) rest := by
  rw [freshBy, List.map_cons, freshness]
  split <;> rfl

theorem map_fst_freshBy : (freshBy key taken values).map Prod.fst = values := by
  have hentries := map_fst_freshness taken (values.map fun v => (key v, v))
  have hvalues := congrArg (List.map Prod.snd) hentries
  rw [List.map_map, List.map_map] at hvalues
  rw [freshBy, List.map_map]
  exact hvalues.trans (List.map_id values)

/-- A value stands under its key. -/
theorem key_of_mem_freshness {e : (String × α) × Bool}
    (h : e ∈ freshness taken (values.map fun v => (key v, v))) : e.1.1 = key e.1.2 := by
  have hm := List.mem_map_of_mem (f := Prod.fst) h
  rw [map_fst_freshness] at hm
  obtain ⟨v, -, hv⟩ := List.mem_map.mp hm
  rw [← hv]

/-- A value is fresh if its key is neither taken nor that of a value before. -/
theorem isFresh_freshBy_iff {before after : List (α × Bool)} {v : α} {isFresh : Bool}
    (h : freshBy key taken values = before ++ (v, isFresh) :: after) :
    isFresh = true ↔ key v ∉ taken ∧ key v ∉ before.map fun o => key o.1 := by
  obtain ⟨first, last, hsplit, rfl, hlast⟩ := List.map_eq_append_iff.mp h
  obtain ⟨⟨⟨k, w⟩, fresh⟩, rest, rfl, he, -⟩ := List.map_eq_cons_iff.mp hlast
  obtain ⟨rfl, rfl⟩ := Prod.mk.inj he
  have hkey : k = key w := key_of_mem_freshness (e := ((k, w), fresh)) (by rw [hsplit]; simp)
  have hbefore : (first.map fun e => e.1.1) = first.map fun e => key e.1.2 :=
    List.map_congr_left fun e hm =>
      key_of_mem_freshness (by rw [hsplit]; exact List.mem_append_left _ hm)
  rw [isFresh_iff hsplit, hbefore, List.map_map, hkey]
  rfl

/-- The values that are kept are the fresh ones. -/
theorem map_snd_keepFresh :
    (keepFresh taken (values.map fun v => (key v, v))).map Prod.snd =
      ((freshBy key taken values).filter Prod.snd).map Prod.fst := by
  rw [keepFresh_eq_filter, freshBy, List.filter_map, List.map_map, List.map_map]
  rfl

end FreshBy

/-- The keys that are kept are those that are not taken, each where it comes first. -/
theorem map_fst_keepFresh (taken : List String) (entries : List (String × α)) :
    (keepFresh taken entries).map Prod.fst =
      ((entries.map Prod.fst).filter fun key => key ∉ taken).eraseDups := by
  fun_induction keepFresh taken entries with
  | case1 => rfl
  | case2 taken key value rest h ih =>
    rw [ih, List.map_cons, List.filter_cons_of_neg (by simpa using h)]
  | case3 taken key value rest h ih =>
    have hrest : (fun other => decide (other ∉ key :: taken)) =
        fun other => (!other == key) && decide (other ∉ taken) := by
      funext other
      rw [Bool.eq_iff_iff]
      simp
    rw [List.map_cons, ih, List.map_cons, List.filter_cons_of_pos (by simpa using h),
      List.eraseDups_cons, List.filter_filter, hrest]

end TypedClient.Client
