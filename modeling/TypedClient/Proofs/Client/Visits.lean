import TypedClient.Proofs.Client.Locality
import TypedClient.Proofs.Client.Routing
import TypedClient.Proofs.Client.TypeNames

/-!
# The visits of a build

A build visits the operations of a document one after the other. At each visit it either
compiles the operation, as if no other had been compiled before, or reports that its
method name is in use, and what it has counted at the end is the sum of what it counts at
each visit (`tally_build`).
-/

namespace TypedClient.Client

open TypedClient.Api

/-- The name of the method for an operation. -/
def nameFor [NameStyle] (endpoint : Endpoint) : String := methodName endpoint.operation.operationId

/-- What an operation is compiled to when none of the overrides has been used. -/
def compiledFirst [NameStyle] (overrides : Overrides) (mode : OverrideMode) (endpoint : Endpoint) :
    Compiled :=
  (compile (.new overrides mode) endpoint).1

/-- The operations of a document, each with whether it is the first of its method name. -/
def visits [NameStyle] (document : Document) : List (Endpoint × Bool) :=
  freshBy nameFor [] document.endpoints

/-- The operations that are compiled. -/
def compiledVisits (visits : List (Endpoint × Bool)) : List Endpoint :=
  (visits.filter Prod.snd).map Prod.fst

/-- The operations that are skipped. -/
def skippedVisits (visits : List (Endpoint × Bool)) : List Endpoint :=
  (visits.filter fun v => !v.2).map Prod.fst

theorem length_visits (visits : List (Endpoint × Bool)) :
    visits.length = (compiledVisits visits).length + (skippedVisits visits).length := by
  rw [compiledVisits, skippedVisits, List.length_map, List.length_map]
  exact List.length_eq_length_filter_add Prod.snd

theorem compiledVisits_visits [NameStyle] (document : Document) :
    compiledVisits (visits document) = firstsOfNames [] document.endpoints :=
  map_snd_keepFresh.symm

/-! ### Sums of counts -/

namespace Tally

/-- The counts of both, and the warnings of both one after the other. -/
def plus (s t : Tally) : Tally where
  paths := s.paths + t.paths
  operations := s.operations + t.operations
  requestTypes := s.requestTypes + t.requestTypes
  responseTypes := s.responseTypes + t.responseTypes
  withBody := s.withBody + t.withBody
  renamed := s.renamed + t.renamed
  warnings := s.warnings ++ t.warnings

/-- A count of operations: it adds up, and neither paths nor warnings are counted. -/
structure CountsOperations (count : Tally → Nat) : Prop where
  /-- The count of both is the sum of the counts. -/
  plus : ∀ s t, count (s.plus t) = count s + count t
  /-- Paths alone count nothing. -/
  paths : ∀ number, count (Tally.empty.addPaths number) = 0
  /-- Warnings do not change the count. -/
  warnings : ∀ t warnings, count (Tally.addWarnings t warnings) = count t

/-- A count that is added up is the sum of the counts. -/
theorem CountsOperations.foldl_plus {count : Tally → Nat} (h : CountsOperations count) (t : Tally)
    (tallies : List Tally) :
    count (tallies.foldl Tally.plus t) = count t + (tallies.map count).sum := by
  induction tallies generalizing t with
  | nil => rfl
  | cons first rest ih =>
    rw [List.foldl_cons, ih, h.plus, List.map_cons, List.sum_cons, Nat.add_assoc]

theorem warnings_foldl_plus (t : Tally) (tallies : List Tally) :
    (tallies.foldl plus t).warnings = t.warnings ++ tallies.flatMap warnings := by
  induction tallies generalizing t with
  | nil => rw [List.flatMap_nil, List.append_nil, List.foldl_nil]
  | cons first rest ih =>
    rw [List.foldl_cons, ih, plus, List.flatMap_cons, List.append_assoc]

end Tally

section Visits

variable {overrides : Overrides} {mode : OverrideMode}

/-- The warnings of a visit: those of the operation that is compiled, or one for the operation that
is skipped. -/
def visitWarnings [NameStyle] (overrides : Overrides) (mode : OverrideMode) :
    Endpoint × Bool → List Warning
  | (endpoint, true) => (compiledFirst overrides mode endpoint).warnings
  | (endpoint, false) => [.duplicateMethod endpoint.operation.operationId (nameFor endpoint)]

/-- What is counted at a visit. -/
def visitTally [NameStyle] (overrides : Overrides) (mode : OverrideMode) : Endpoint × Bool → Tally
  | (endpoint, true) =>
    let compiled := compiledFirst overrides mode endpoint
    ((Tally.empty.addOperation true true compiled.method.hasBody).addRenamed
      compiled.renamed).addWarnings compiled.warnings
  | (endpoint, false) =>
    Tally.empty.addWarnings [.duplicateMethod endpoint.operation.operationId (nameFor endpoint)]

theorem warnings_visitTally [NameStyle] (visit : Endpoint × Bool) :
    (visitTally overrides mode visit).warnings = visitWarnings overrides mode visit := by
  obtain ⟨endpoint, isFirst⟩ := visit
  cases isFirst <;> rfl

/-! ### Types that are counted -/

private theorem space_not_mem_of_isWord {name : String} (h : IsWord name) : ' ' ∉ name.toList := by
  intro hm
  exact absurd (h.2 ' ' hm) (by decide)

/-- A request type with a name has a text. -/
theorem RequestType.isEmpty_text {request : RequestType} (h : IsWord request.name) :
    request.text.isEmpty = false := by
  by_contra hempty
  rw [Bool.not_eq_false, String.isEmpty_iff] at hempty
  have hname := declaredName_request (space_not_mem_of_isWord h)
  rw [hempty] at hname
  exact h.1 hname.symm

/-- A response type with a name has a text. -/
theorem ResponseType.isEmpty_text {response : ResponseType} (h : IsWord response.name) :
    response.text.isEmpty = false := by
  by_contra hempty
  rw [Bool.not_eq_false, String.isEmpty_iff] at hempty
  have hname := declaredName_response (space_not_mem_of_isWord h)
  rw [hempty] at hname
  exact h.1 hname.symm

/-! ### Visits one after the other -/

/-- For an operation its own override is as good as all of them. -/
theorem sameFor_overrideOf (overrides : Overrides) (mode : OverrideMode) (id : String) :
    SameFor id (.new overrides mode) (.new (overrideOf overrides id) mode) :=
  ⟨rfl, (Build.get?_overrideOf overrides id).symm, fun _ => Iff.rfl⟩

theorem compiledAlone_eq [NameStyle] (endpoint : Endpoint) :
    compiledAlone overrides mode endpoint = (compiledFirst overrides mode endpoint).method := by
  rw [compiledAlone, compiledFirst, (sameFor_overrideOf overrides mode _).compile]

namespace Build

variable [NameStyle] {b : Build}

/-- An operation whose method name is free is compiled as if no other had been before. -/
theorem AnsweredForNames.compile_eq (h : b.AnsweredForNames overrides mode) {endpoint : Endpoint}
    (hn : nameFor endpoint ∉ b.names) :
    (compile b.resolver endpoint).1 = compiledFirst overrides mode endpoint := by
  rw [compiledFirst, (h.sameFor hn).compile, (sameFor_overrideOf overrides mode _).compile]

/-- What has been counted after a visit. -/
theorem AnsweredForNames.tally_add (h : b.AnsweredForNames overrides mode) (endpoint : Endpoint) :
    (b.add endpoint).tally =
      b.tally.plus (visitTally overrides mode (endpoint, decide (nameFor endpoint ∉ b.names))) := by
  by_cases hn : nameFor endpoint ∈ b.names
  · have hskip : decide (nameFor endpoint ∉ b.names) = false := by simpa using hn
    rw [hskip, Build.add, ← nameFor, if_pos hn]
    rfl
  · have hread := isReadable_compile b.resolver endpoint
    have hfirst : decide (nameFor endpoint ∉ b.names) = true := by simpa using hn
    rw [hfirst, Build.add, ← nameFor, if_neg hn, visitTally, ← h.compile_eq hn]
    dsimp only
    rw [RequestType.isEmpty_text hread.request, ResponseType.isEmpty_text hread.response]
    simp only [Tally.plus, Tally.addOperation, Tally.addRenamed, Tally.addWarnings, Tally.empty,
      Nat.zero_add, Nat.add_zero, List.nil_append, Bool.not_false]

/-- What has been counted after some visits. -/
theorem AnsweredForNames.tally_foldl_add (h : b.AnsweredForNames overrides mode)
    (endpoints : List Endpoint) :
    (endpoints.foldl Build.add b).tally =
      ((freshBy nameFor b.names endpoints).map (visitTally overrides mode)).foldl Tally.plus
        b.tally := by
  induction endpoints generalizing b with
  | nil => rfl
  | cons e rest ih =>
    rw [List.foldl_cons, ih (h.add e), h.tally_add e, freshBy_cons]
    by_cases hn : nameFor e ∈ b.names
    · have hskip : decide (nameFor e ∉ b.names) = false := by simpa using hn
      rw [if_pos hn, (add_of_mem hn).2, hskip, List.map_cons, List.foldl_cons]
    · have hfirst : decide (nameFor e ∉ b.names) = true := by simpa using hn
      rw [if_neg hn, (add_of_not_mem hn).2, hfirst, List.map_cons, List.foldl_cons, nameFor]

end Build

variable [NameStyle] (document : Document) (overrides : Overrides) (mode : OverrideMode)

/-- The methods of a build are those of the operations that are compiled. -/
theorem methods_build_eq_map :
    (build document overrides mode).methods =
      (compiledVisits (visits document)).map fun e => (compiledFirst overrides mode e).method := by
  rw [methods_build, compiledVisits_visits]
  exact List.map_congr_left fun e _ => compiledAlone_eq e

/-- A build counts what is counted at each visit, and reports the overrides that are not used. -/
theorem tally_build :
    (build document overrides mode).tally =
      (((visits document).map (visitTally overrides mode)).foldl Tally.plus
        (Tally.empty.addPaths document.paths.length)).addWarnings
          (unusedOverrides overrides document.endpoints) := by
  have hstart : Build.AnsweredForNames overrides mode
      ⟨[], Tally.empty.addPaths document.paths.length, .new overrides mode, []⟩ :=
    ⟨rfl, rfl, fun _ he => absurd he List.not_mem_nil⟩
  rw [build]
  dsimp only
  rw [hstart.tally_foldl_add, visits]

theorem warnings_build :
    (build document overrides mode).tally.warnings =
      (visits document).flatMap (visitWarnings overrides mode) ++
        unusedOverrides overrides document.endpoints := by
  have hvisits : (fun visit => (visitTally overrides mode visit).warnings) =
      visitWarnings overrides mode := by
    funext visit
    exact warnings_visitTally visit
  rw [tally_build, Tally.addWarnings]
  dsimp only
  rw [Tally.warnings_foldl_plus, List.flatMap_map, hvisits]
  rfl

/-- What only operations that are compiled are counted for is the sum of what each is counted
for. -/
theorem count_build {count : Tally → Nat} {size : Endpoint → Nat}
    (hcount : Tally.CountsOperations count)
    (hfirst : ∀ e, count (visitTally overrides mode (e, true)) = size e)
    (hskip : ∀ e, count (visitTally overrides mode (e, false)) = 0) :
    count (build document overrides mode).tally =
      ((compiledVisits (visits document)).map size).sum := by
  rw [tally_build, hcount.warnings, hcount.foldl_plus, hcount.paths, Nat.zero_add, List.map_map,
    compiledVisits]
  induction visits document with
  | nil => rfl
  | cons visit rest ih =>
    obtain ⟨endpoint, isFirst⟩ := visit
    cases isFirst with
    | false =>
      rw [List.map_cons, List.sum_cons, Function.comp_apply, hskip, Nat.zero_add, ih,
        List.filter_cons_of_neg (by simp)]
    | true =>
      rw [List.map_cons, List.sum_cons, Function.comp_apply, hfirst, ih,
        List.filter_cons_of_pos rfl, List.map_cons, List.map_cons, List.sum_cons]

end Visits

end TypedClient.Client
