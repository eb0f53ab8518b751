import Mathlib
import TypedClient.Api.Override

/-!
# What a resolver has been asked

A resolver is asked for the keys of arguments and for patched schemas, in any order. What
it has used up is known from the questions alone: in the mode `consume` the names that
have another one and have been looked up, and nothing in the mode `persistent`
(`Remembers`). So every reply is fixed by the overrides, the mode and the names looked up
before (`Question.reply`), and questions for schemas leave no trace.
-/

namespace TypedClient.Api

/-- A question to a resolver about an operation. -/
inductive Question where
  /-- For the key of an argument. -/
  | key (operationId name : String)
  /-- For the schema of the request body, given the one in the document. -/
  | body (operationId : String) (schema : Json)
  /-- For the schema of the response, given the one in the document. -/
  | answer (operationId : String) (schema : Json)

/-- A reply to a question. -/
inductive Reply where
  /-- A key. -/
  | key (key : String)
  /-- A schema. -/
  | schema (schema : Json)
  deriving Repr

/-! ### Replies by the state -/

namespace Resolver

/-- The reply to a question, and the resolver after it. -/
def ask (r : Resolver) : Question → Reply × Resolver
  | .key id name => (.key (r.keyFor id name).1, (r.keyFor id name).2)
  | .body id schema => (.schema (r.patchedBody id schema), r)
  | .answer id schema => (.schema (r.patchedAnswer id schema), r)

/-- The replies to questions that are asked one after another. -/
def replies (r : Resolver) : List Question → List Reply
  | [] => []
  | question :: rest => (r.ask question).1 :: replies (r.ask question).2 rest

/-- The resolver after questions. -/
def after (r : Resolver) (questions : List Question) : Resolver :=
  questions.foldl (fun r question => (r.ask question).2) r

theorem length_replies (r : Resolver) (questions : List Question) :
    (r.replies questions).length = questions.length := by
  induction questions generalizing r with
  | nil => rfl
  | cons question rest ih => rw [replies, List.length_cons, ih, List.length_cons]

theorem replies_append (r : Resolver) (before rest : List Question) :
    r.replies (before ++ rest) = r.replies before ++ (r.after before).replies rest := by
  induction before generalizing r with
  | nil => rfl
  | cons question before ih => rw [List.cons_append, replies, replies, ih, List.cons_append]; rfl

/-- A question after which the resolver is as before can be left out. -/
theorem eraseIdx_replies {question : Question} (h : ∀ r : Resolver, (r.ask question).2 = r)
    (r : Resolver) (before rest : List Question) :
    (r.replies (before ++ question :: rest)).eraseIdx before.length =
      r.replies (before ++ rest) := by
  rw [replies_append, replies_append, replies, h, ← length_replies r before,
    List.eraseIdx_append_of_length_le le_rfl, Nat.sub_self, List.eraseIdx_cons_zero]

end Resolver

/-! ### Replies by the history -/

/-- The other name that overrides have for an argument of an operation. -/
def Overrides.otherName? (overrides : Overrides) (operationId name : String) : Option String :=
  (overrides.get? operationId).bind fun entry => Json.lookup name entry.renames

/-- The operations and names whose keys have been asked for. -/
def lookedUp (questions : List Question) : List (String × String) :=
  questions.filterMap fun
    | .key id name => some (id, name)
    | _ => none

/-- The key for an argument after questions: its other name, in the mode `consume` only at the first
look-up of its name in its operation. -/
def Overrides.keyAfter (overrides : Overrides) (mode : OverrideMode) (before : List Question)
    (operationId name : String) : String :=
  match mode with
  | .persistent => (overrides.otherName? operationId name).getD name
  | .consume =>
    if (operationId, name) ∈ lookedUp before then name
    else (overrides.otherName? operationId name).getD name

/-- The reply to a question after others. It matters for keys alone what was asked before. -/
def Question.reply (overrides : Overrides) (mode : OverrideMode) (before : List Question) :
    Question → Reply
  | .key id name => .key (overrides.keyAfter mode before id name)
  | .body id schema =>
    .schema (Resolver.patched schema ((overrides.get? id).bind Override.requestPatch))
  | .answer id schema =>
    .schema (Resolver.patched (schema.merge Resolver.blankDescription)
      ((overrides.get? id).bind Override.responsePatch))

/-- A resolver in the state in which questions have left it. -/
structure Remembers (overrides : Overrides) (mode : OverrideMode) (before : List Question)
    (r : Resolver) : Prop where
  /-- The overrides are as they were. -/
  sameOverrides : r.overrides = overrides
  /-- The mode is as it was. -/
  sameMode : r.mode = mode
  /-- What has been used up are the names looked up that have another one, in the mode
  `consume`. -/
  consumed : ∀ id name, (id, name) ∈ r.consumed ↔
    mode = .consume ∧ (overrides.otherName? id name).isSome ∧ (id, name) ∈ lookedUp before

section Histories

variable {overrides : Overrides} {mode : OverrideMode} {before : List Question} {r : Resolver}

theorem lookedUp_concat_key (before : List Question) (id name : String) :
    lookedUp (before ++ [.key id name]) = lookedUp before ++ [(id, name)] := by
  rw [lookedUp, List.filterMap_append]
  rfl

/-- A look-up is remembered if the name has another one that can be used up; what has been used up
need not change if it has been used up before. -/
theorem Remembers.lookUp (h : Remembers overrides mode before r) {id name : String}
    {consumed : List (String × String)}
    (hc : ∀ entry, entry ∈ consumed ↔ entry ∈ r.consumed ∨
      entry = (id, name) ∧ mode = .consume ∧ (overrides.otherName? id name).isSome) :
    Remembers overrides mode (before ++ [.key id name]) { r with consumed } := by
  refine ⟨h.sameOverrides, h.sameMode, fun id' name' => ?_⟩
  rw [hc, h.consumed, lookedUp_concat_key, List.mem_append, List.mem_singleton]
  constructor
  · rintro (⟨hmode, hother, hmem⟩ | ⟨he, hmode, hother⟩)
    · exact ⟨hmode, hother, Or.inl hmem⟩
    · obtain ⟨rfl, rfl⟩ := Prod.mk.inj he
      exact ⟨hmode, hother, Or.inr rfl⟩
  · rintro ⟨hmode, hother, hmem | he⟩
    · exact Or.inl ⟨hmode, hother, hmem⟩
    · obtain ⟨rfl, rfl⟩ := Prod.mk.inj he
      exact Or.inr ⟨rfl, hmode, hother⟩

/-- A key is what the history says, and the look-up becomes a part of the history. -/
theorem Remembers.keyFor (h : Remembers overrides mode before r) (id name : String) :
    (r.keyFor id name).1 = overrides.keyAfter mode before id name ∧
      Remembers overrides mode (before ++ [.key id name]) (r.keyFor id name).2 := by
  have hreplacement : r.replacement? id name = overrides.otherName? id name := by
    rw [← h.sameOverrides]
    rfl
  rw [Resolver.keyFor, hreplacement]
  split
  · next hother =>
    refine ⟨?_, h.lookUp fun entry => by simp [hother]⟩
    cases mode with
    | persistent => rw [Overrides.keyAfter, hother, Option.getD_none]
    | consume => rw [Overrides.keyAfter, hother, Option.getD_none, ite_self]
  · next other hother hmode =>
    obtain rfl : OverrideMode.persistent = mode := hmode.symm.trans h.sameMode
    rw [Overrides.keyAfter, hother]
    exact ⟨rfl, h.lookUp fun entry => by simp⟩
  · next other hother hmode =>
    obtain rfl : OverrideMode.consume = mode := hmode.symm.trans h.sameMode
    have hused : (id, name) ∈ r.consumed ↔ (id, name) ∈ lookedUp before := by
      rw [h.consumed, hother]
      simp
    rw [Overrides.keyAfter, hother]
    by_cases hmem : (id, name) ∈ r.consumed
    · rw [if_pos (List.contains_iff_mem.mpr hmem), if_pos (hused.mp hmem)]
      refine ⟨rfl, h.lookUp fun entry => ?_⟩
      rw [iff_self_or]
      rintro ⟨rfl, -⟩
      exact hmem
    · have hfree : ¬ r.consumed.contains (id, name) = true :=
        fun hc => hmem (List.contains_iff_mem.mp hc)
      rw [if_neg hfree, if_neg fun hl => hmem (hused.mpr hl)]
      refine ⟨rfl, h.lookUp fun entry => ?_⟩
      rw [List.mem_cons, hother]
      simp [or_comm]

/-- A question for a schema becomes a part of the history, and nothing else changes. -/
theorem Remembers.concat (h : Remembers overrides mode before r) {question : Question}
    (hq : lookedUp [question] = []) : Remembers overrides mode (before ++ [question]) r := by
  refine ⟨h.sameOverrides, h.sameMode, fun id name => ?_⟩
  have hsame : lookedUp (before ++ [question]) = lookedUp before := by
    rw [lookedUp, List.filterMap_append, ← lookedUp, ← lookedUp, hq, List.append_nil]
  rw [hsame]
  exact h.consumed id name

/-- A reply is what the history says, and the question becomes a part of it. -/
theorem Remembers.ask (h : Remembers overrides mode before r) (question : Question) :
    (r.ask question).1 = question.reply overrides mode before ∧
      Remembers overrides mode (before ++ [question]) (r.ask question).2 := by
  cases question with
  | key id name =>
    obtain ⟨hkey, hnext⟩ := h.keyFor id name
    exact ⟨congrArg Reply.key hkey, hnext⟩
  | body id schema =>
    refine ⟨?_, h.concat rfl⟩
    rw [Resolver.ask, Resolver.patchedBody, h.sameOverrides]
    rfl
  | answer id schema =>
    refine ⟨?_, h.concat rfl⟩
    rw [Resolver.ask, Resolver.patchedAnswer, h.sameOverrides]
    rfl

/-- In a run every reply is what the questions up to it say. -/
theorem Remembers.getElem?_replies (h : Remembers overrides mode before r)
    (questions : List Question) (i : Nat) :
    (r.replies questions)[i]? =
      questions[i]?.map (Question.reply overrides mode (before ++ questions.take i)) := by
  induction questions generalizing before r i with
  | nil => rfl
  | cons question rest ih =>
    obtain ⟨hreply, hnext⟩ := h.ask question
    rw [Resolver.replies]
    cases i with
    | zero =>
      rw [List.getElem?_cons_zero, List.getElem?_cons_zero, List.take_zero, List.append_nil, hreply]
      rfl
    | succ i =>
      rw [List.getElem?_cons_succ, List.getElem?_cons_succ, ih hnext i, List.take_succ_cons,
        List.append_assoc, List.singleton_append]

/-- A new resolver has been asked nothing. -/
theorem remembers_new (overrides : Overrides) (mode : OverrideMode) :
    Remembers overrides mode [] (.new overrides mode) :=
  ⟨rfl, rfl, fun _ _ => ⟨fun h => absurd h List.not_mem_nil, fun h => absurd h.2.2 List.not_mem_nil⟩⟩

/-- Whatever a resolver is asked, and in whatever order, each of its replies is what the questions
before it say: in the mode `consume` an argument has its other name exactly at the first look-up of
its name in its operation, in the mode `persistent` at every one, and a schema is patched
alike wherever its question stands. Any question for a schema can be left out, and the replies to
the others are the same. -/
theorem replies_by_history (overrides : Overrides) (mode : OverrideMode) :
    let r := Resolver.new overrides mode
    (∀ (questions : List Question) (i : Nat), (r.replies questions)[i]? =
      questions[i]?.map (Question.reply overrides mode (questions.take i))) ∧
    ∀ (before rest : List Question) (id : String) (schema : Json),
      (r.replies (before ++ .body id schema :: rest)).eraseIdx before.length =
        r.replies (before ++ rest) ∧
      (r.replies (before ++ .answer id schema :: rest)).eraseIdx before.length =
        r.replies (before ++ rest) := by
  intro r
  constructor
  · exact (remembers_new overrides mode).getElem?_replies
  · intro before rest id schema
    constructor
    · exact Resolver.eraseIdx_replies (fun _ => rfl) r before rest
    · exact Resolver.eraseIdx_replies (fun _ => rfl) r before rest

end Histories

/-- One operation uses up a name of its own, and neither that of another operation nor another name
of its own. -/
example :
    (Resolver.new [("get", ⟨[("id", "itemId"), ("rev", "revision")], none, none⟩),
        ("put", ⟨[("id", "target")], none, none⟩)] .consume).replies
      [.key "get" "id", .key "put" "id", .body "get" .null, .key "get" "id", .key "get" "rev",
        .key "get" "limit", .key "get" "limit"] =
    [.key "itemId", .key "target", .schema .null, .key "id", .key "revision", .key "limit",
      .key "limit"] := by
  rfl

end TypedClient.Api
