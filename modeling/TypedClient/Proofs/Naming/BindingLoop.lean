import TypedClient.Client.Compile
import TypedClient.Proofs.Naming.Locals

/-!
# The search for a free local

A local is found by a loop: as long as the name is taken, an underscore goes in front of
it. `Settles` is that loop, round by round. Every round takes the name to one that is
longer, so no taken name is met twice, and the loop ends after as many rounds as there are
taken names at most. `freshen` gives the name that it ends with.
-/

namespace TypedClient.Client

/-- The loop that puts underscores in front of a taken name: how many rounds it makes from a name,
and the name that it ends with. -/
inductive Settles (taken : List String) : String → Nat → String → Prop where
  /-- A free name is the one that is looked for. -/
  | free {name : String} (h : name ∉ taken) : Settles taken name 0 name
  /-- A taken name gets an underscore. -/
  | round {name settled : String} {rounds : Nat} (h : name ∈ taken)
    (next : Settles taken ("_" ++ name) rounds settled) : Settles taken name (rounds + 1) settled

/-- The loop does not come back to a name that is shorter than the one it is at. -/
theorem Settles.of_erase {taken : List String} {shorter name settled : String} {rounds : Nat}
    (h : Settles (taken.erase shorter) name rounds settled)
    (hlength : shorter.length < name.length) : Settles taken name rounds settled := by
  induction h with
  | @free name h =>
    have hne : name ≠ shorter := by
      rintro rfl
      omega
    exact .free fun hm => h ((List.mem_erase_of_ne hne).mpr hm)
  | @round name settled rounds h next ih =>
    refine .round (List.mem_of_mem_erase h) (ih ?_)
    rw [String.length_append]
    omega

/-- The loop ends, after no more rounds than there are taken names. -/
theorem exists_settles_freshen (taken : List String) (name : String) :
    ∃ rounds ≤ taken.length, Settles taken name rounds (freshen taken name) := by
  fun_induction freshen taken name with
  | case1 taken name h ih =>
    obtain ⟨rounds, hrounds, hsettles⟩ := ih
    have hlength := List.length_erase_of_mem h
    have hpos := List.length_pos_of_mem h
    have hlonger : name.length < ("_" ++ name).length := by
      rw [String.length_append]
      exact Nat.lt_add_of_pos_left (by decide)
    exact ⟨rounds + 1, by omega, .round h (hsettles.of_erase hlonger)⟩
  | case2 taken name h => exact ⟨0, Nat.zero_le _, .free h⟩

/-- The locals that keys are bound to one after the other: for each the loop ends, and its local is
taken from then on. -/
inductive BoundInTurn [NameStyle] : List String → List String → List String → Prop where
  /-- There are no more keys. -/
  | done (taken : List String) : BoundInTurn taken [] []
  /-- A key is bound, and then those after it. -/
  | bind {taken keys locals : List String} {key name : String} {rounds : Nat}
    (hrounds : rounds ≤ taken.length) (settles : Settles taken (bindingName key) rounds name)
    (rest : BoundInTurn (name :: taken) keys locals) :
    BoundInTurn taken (key :: keys) (name :: locals)

theorem boundInTurn_freeBindings [NameStyle] (taken keys : List String) :
    BoundInTurn taken keys (freeBindings taken keys) := by
  induction keys generalizing taken with
  | nil => exact .done taken
  | cons key rest ih =>
    obtain ⟨rounds, hrounds, hsettles⟩ := exists_settles_freshen taken (bindingName key)
    exact .bind hrounds hsettles (ih _)

/-- Keys of any form are bound one after the other, with a loop that ends for each of them, to
locals that are distinct, may name one, and are none of those that a method has anyway. -/
theorem freeBindings_are_locals [NameStyle] (keys : List String) :
    let locals := freeBindings reservedLocals keys
    BoundInTurn reservedLocals keys locals ∧ locals.Nodup ∧
      ∀ name ∈ locals, isIdentifier name.toList = true ∧ name ∉ reservedWords ∧
        name ∉ ["body", "results", "requestOptions", "returnAxios"] := by
  intro locals
  refine ⟨boundInTurn_freeBindings _ keys, nodup_freeBindings _ keys, fun name hname => ?_⟩
  obtain ⟨hidentifier, hword⟩ := isBinding_iff.mp (isBinding_of_mem_freeBindings hname)
  have hreserved : ∀ word ∈ ["body", "results", "requestOptions", "returnAxios"],
      word ∈ reservedLocals := by
    decide
  exact ⟨hidentifier, hword, fun hm => not_mem_of_mem_freeBindings hname (hreserved name hm)⟩

end TypedClient.Client
