import TypedClient.Json.Token

/-!
# Taking tokens one after another

A reader of tokens is a state and a step: the step looks at one token and either
ends with a result, goes on in another state, or fails. `consume` runs it. Since
each step takes its token, a run that ends with a result has taken at least one.
-/

namespace TypedClient.Json

/-- What a step does with its token. -/
inductive Outcome (σ α ε : Type) where
  /-- The token was the last one of the result. -/
  | done (result : α)
  /-- The next token is to be taken in another state. -/
  | more (state : σ)
  /-- The token shows a fault. -/
  | failed (fault : ε)

/-- Takes tokens until a step ends; gives the result and the tokens after it. `atEnd` is the fault
of the tokens ending before. -/
def consume {σ α ε : Type} (step : σ → Token → Outcome σ α ε) (atEnd : σ → ε) (state : σ) :
    List Token → Except ε (α × List Token)
  | [] => .error (atEnd state)
  | token :: rest =>
    match step state token with
    | .done result => .ok (result, rest)
    | .more next => consume step atEnd next rest
    | .failed fault => .error fault

/-- A run that ends with a result has taken at least one token. -/
theorem length_consume {σ α ε : Type} {step : σ → Token → Outcome σ α ε} {atEnd : σ → ε}
    {state : σ} {ts rest : List Token} {result : α}
    (h : consume step atEnd state ts = .ok (result, rest)) : rest.length < ts.length := by
  fun_induction consume step atEnd state ts with
  | case1 => simp at h
  | case2 state token ts result' hs => cases h; simp
  | case3 state token ts next hs ih =>
    have := ih h
    simp only [List.length_cons]
    omega
  | case4 => simp at h

/-- A part of a text that has been read: the result, and the tokens after it, which are fewer than
those from which reading started. -/
structure Taken (α : Type) (ts : List Token) where
  /-- What was read. -/
  value : α
  /-- The tokens after it. -/
  rest : List Token
  /-- Something was taken. -/
  shorter : rest.length < ts.length

/-- A run with the proof that it took something. -/
def consumeTaken {σ α ε : Type} (step : σ → Token → Outcome σ α ε) (atEnd : σ → ε) (state : σ)
    (ts : List Token) : Except ε (Taken α ts) :=
  match h : consume step atEnd state ts with
  | .ok (value, rest) => .ok ⟨value, rest, length_consume h⟩
  | .error e => .error e

end TypedClient.Json
