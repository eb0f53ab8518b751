/-!
# Readers that go from character to character

A reader is given by its step: where it is and the next character give what it says
and where it is then. What it says on a text put together from two is what it says on
the first and then, from where that left it, on the second.
-/

namespace TypedClient.Script

variable {σ ω : Type} {step : σ → Char → Option (List ω × σ)}

/-- What a reader says on a text, and where it is after it. -/
def feed (step : σ → Char → Option (List ω × σ)) : σ → List Char → Option (List ω × σ)
  | state, [] => some ([], state)
  | state, c :: rest =>
    match step state c with
    | none => none
    | some (out, next) => (feed step next rest).map fun (more, last) => (out ++ more, last)

theorem feed_cons {state next : σ} {c : Char} {out : List ω} (h : step state c = some (out, next))
    (rest : List Char) :
    feed step state (c :: rest) =
      (feed step next rest).map fun (more, last) => (out ++ more, last) := by
  rw [feed, h]

/-- What a reader says on a text is what it says on the first character and then on the rest. -/
theorem exists_of_feed_cons {state last : σ} {c : Char} {rest : List Char} {out : List ω}
    (h : feed step state (c :: rest) = some (out, last)) :
    ∃ first next more, step state c = some (first, next) ∧
      feed step next rest = some (more, last) ∧ out = first ++ more := by
  cases hs : step state c with
  | none => simp [feed, hs] at h
  | some reply =>
    obtain ⟨first, next⟩ := reply
    rw [feed_cons hs, Option.map_eq_some_iff] at h
    obtain ⟨⟨more, final⟩, hm, he⟩ := h
    obtain ⟨rfl, rfl⟩ : first ++ more = out ∧ final = last := Prod.mk.inj he
    exact ⟨first, next, more, rfl, hm, rfl⟩

/-- A state that takes a character as another does, after it has said something, goes on as that
one does. -/
theorem feed_after {state other : σ} {c : Char} {front : List ω}
    (h : step state c = (step other c).map fun (out, next) => (front ++ out, next))
    (rest : List Char) :
    feed step state (c :: rest) =
      (feed step other (c :: rest)).map fun (out, last) => (front ++ out, last) := by
  cases hs : step other c with
  | none =>
    rw [hs, Option.map_none] at h
    rw [feed, feed, h, hs]
    rfl
  | some reply =>
    obtain ⟨out, next⟩ := reply
    rw [hs, Option.map_some] at h
    rw [feed_cons h, feed_cons hs, Option.map_map]
    simp [Function.comp_def]

/-- Reading goes on where it was left. -/
theorem feed_append_eq {state next : σ} {a : List Char} {x : List ω}
    (h : feed step state a = some (x, next)) (b : List Char) :
    feed step state (a ++ b) = (feed step next b).map fun (more, last) => (x ++ more, last) := by
  induction a generalizing state x with
  | nil =>
    obtain ⟨rfl, rfl⟩ : [] = x ∧ state = next := by simpa [feed] using h
    simp
  | cons c a ih =>
    obtain ⟨out, mid, more, hs, hm, rfl⟩ := exists_of_feed_cons h
    rw [List.cons_append, feed_cons hs, ih hm]
    cases feed step next b <;> simp

theorem feed_append {s t u : σ} {a b : List Char} {x y : List ω}
    (ha : feed step s a = some (x, t)) (hb : feed step t b = some (y, u)) :
    feed step s (a ++ b) = some (x ++ y, u) := by
  rw [feed_append_eq ha, hb]
  rfl

/-- A reader that hands each character on to an inner one and collects what that says. -/
theorem feed_inner {τ α : Type} {inner : τ → Char → Option (List α × τ)} {place : List α → τ → σ}
    (h : ∀ said mode c out next, inner mode c = some (out, next) →
      step (place said mode) c = some ([], place (said ++ out) next))
    (said : List α) {mode last : τ} {text : List Char} {out : List α}
    (hf : feed inner mode text = some (out, last)) :
    feed step (place said mode) text = some ([], place (said ++ out) last) := by
  induction text generalizing said mode out with
  | nil =>
    obtain ⟨rfl, rfl⟩ : [] = out ∧ mode = last := by simpa [feed] using hf
    rw [List.append_nil]
    rfl
  | cons c rest ih =>
    obtain ⟨first, next, more, hs, hm, rfl⟩ := exists_of_feed_cons hf
    rw [feed_cons (h said mode c first next hs), ih (said ++ first) hm, List.append_assoc]
    rfl

end TypedClient.Script
