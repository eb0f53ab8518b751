import TypedClient.Console.Session
import TypedClient.Proofs.Client.Visits

/-!
# What a client accounts for

No operation of a document is lost and none counts twice. The first operation of each
method name is compiled and every other one is reported by one warning, so that the
numbers add up; the list of operations names the same methods; and each count says what
its name promises. The overrides that belong to no operation are reported after all else.
-/

namespace TypedClient.Client

open TypedClient.Api
open TypedClient.Console (ListedOperation listedOperations)

/-- The operations on a path, in the order in which they are visited. -/
def visitedOn (path : String) (item : PathItem) : List Endpoint :=
  (item.delete.map (⟨path, .delete, ·⟩)).toList ++ (item.get.map (⟨path, .get, ·⟩)).toList ++
    (item.post.map (⟨path, .post, ·⟩)).toList ++ (item.put.map (⟨path, .put, ·⟩)).toList

/-- The visits of a document: each operation, with whether no operation before it has its method
name. -/
structure AreVisits [NameStyle] (document : Document) (visits : List (Endpoint × Bool)) : Prop where
  /-- The paths are visited in order, and each operation once. -/
  endpoints : visits.map Prod.fst = document.paths.flatMap fun (path, item) => visitedOn path item
  /-- The first operation of each method name is marked, and no other. -/
  isFirst_iff : ∀ before e isFirst after, visits = before ++ (e, isFirst) :: after →
    (isFirst = true ↔ nameFor e ∉ before.map fun v => nameFor v.1)

/-- The operation and the method name of an operation that is reported as skipped. -/
def Warning.duplicateMethod? : Warning → Option (String × String)
  | .duplicateMethod id name => some (id, name)
  | _ => none

/-- The operation of an override that is reported as not used. -/
def Warning.unusedOverride? : Warning → Option String
  | .unusedOverride id => some id
  | _ => none

/-- The overrides that belong to no operation, in order. -/
def unknownIds (overrides : Overrides) (visits : List (Endpoint × Bool)) : List String :=
  (overrides.map Prod.fst).filter fun id => id ∉ visits.map fun v => v.1.operation.operationId

/-- Whether methods and counts are those of the visits of a document. -/
structure Accounts [NameStyle] (document : Document) (overrides : Overrides) (mode : OverrideMode)
    (visits : List (Endpoint × Bool)) (methods : List Method) (tally : Tally) : Prop where
  /-- Each operation that is compiled has a method, in order. -/
  compiled : methods =
    (compiledVisits visits).map fun e => (compiledFirst overrides mode e).method
  /-- The list of operations names the same methods, where it does not repeat one. -/
  listed : methods.map Method.name =
    ((listedOperations document).map ListedOperation.methodName).eraseDups
  /-- The visits are reported one after the other, and then the overrides that are not used. -/
  warnings : tally.warnings = visits.flatMap (visitWarnings overrides mode) ++
    (unknownIds overrides visits).map Warning.unusedOverride
  /-- Each operation that is skipped has one warning that says so, and no other has one. -/
  skipped : tally.warnings.filterMap Warning.duplicateMethod? =
    (skippedVisits visits).map fun e => (e.operation.operationId, nameFor e)
  /-- No override is reported before the last warnings. -/
  unused : tally.warnings.filterMap Warning.unusedOverride? = unknownIds overrides visits
  /-- The operations that are counted are those with a method. -/
  operations : tally.operations = methods.length
  /-- Each of them has a request type. -/
  requestTypes : tally.requestTypes = methods.length
  /-- Each of them has a response type. -/
  responseTypes : tally.responseTypes = methods.length
  /-- Each operation is counted or reported as skipped. -/
  total : visits.length =
    tally.operations + (tally.warnings.filterMap Warning.duplicateMethod?).length
  /-- The bodies that are counted are those with a schema. -/
  withBody : tally.withBody =
    (compiledVisits visits).countP fun e => e.operation.requestSchema?.isSome
  /-- The arguments that are counted are those whose key is not the name of their parameter. -/
  renamed : tally.renamed =
    ((compiledVisits visits).flatMap fun e =>
      keptParameters (.new overrides mode) e.operation).countP fun k => k.1 ≠ k.2.name

/-! ### Visits -/

theorem endpoints_eq_visitedOn (path : String) (item : PathItem) :
    item.endpoints path = visitedOn path item := by
  obtain ⟨delete, get, post, put⟩ := item
  cases delete <;> cases get <;> cases post <;> cases put <;> rfl

theorem areVisits_visits [NameStyle] (document : Document) :
    AreVisits document (visits document) where
  endpoints := by
    rw [visits, map_fst_freshBy, Document.endpoints]
    refine List.flatMap_congr ?_
    intro entry _
    exact endpoints_eq_visitedOn entry.1 entry.2
  isFirst_iff := by
    intro before e isFirst after h
    rw [isFresh_freshBy_iff h]
    exact and_iff_right List.not_mem_nil

/-! ### Warnings -/

/-- An operation that is compiled has warnings of three kinds. -/
theorem kinds_of_mem_warnings [NameStyle] {r : Resolver} {endpoint : Endpoint} {w : Warning}
    (h : w ∈ (compile r endpoint).1.warnings) :
    (∃ id field message, w = .schema id field message) ∨
      (∃ id field, w = .duplicateField id field) ∨
      ∃ id placeholder, w = .unknownPlaceholder id placeholder := by
  rw [compile] at h
  dsimp only at h
  rw [List.mem_append, List.mem_append, List.mem_map, List.mem_map, List.mem_map] at h
  rcases h with (⟨note, -, rfl⟩ | ⟨field, -, rfl⟩) | ⟨placeholder, -, rfl⟩
  · exact Or.inl ⟨_, _, _, rfl⟩
  · exact Or.inr (Or.inl ⟨_, _, rfl⟩)
  · exact Or.inr (Or.inr ⟨_, _, rfl⟩)

section Visits

variable [NameStyle] {overrides : Overrides} {mode : OverrideMode}

/-- No visit reports an override that is not used. -/
theorem unusedOverride?_of_mem_visitWarnings {visit : Endpoint × Bool} {w : Warning}
    (h : w ∈ visitWarnings overrides mode visit) : w.unusedOverride? = none := by
  obtain ⟨endpoint, isFirst⟩ := visit
  cases isFirst with
  | false =>
    obtain rfl := List.mem_singleton.mp h
    rfl
  | true =>
    rcases kinds_of_mem_warnings h with ⟨_, _, _, rfl⟩ | ⟨_, _, rfl⟩ | ⟨_, _, rfl⟩ <;> rfl

/-- A visit reports an operation as skipped if it skips it. -/
theorem filterMap_duplicateMethod?_visitWarnings (endpoint : Endpoint) (isFirst : Bool) :
    (visitWarnings overrides mode (endpoint, isFirst)).filterMap Warning.duplicateMethod? =
      if isFirst then [] else [(endpoint.operation.operationId, nameFor endpoint)] := by
  cases isFirst with
  | false => rfl
  | true =>
    rw [if_pos rfl, List.filterMap_eq_nil_iff]
    intro w hw
    rcases kinds_of_mem_warnings hw with ⟨_, _, _, rfl⟩ | ⟨_, _, rfl⟩ | ⟨_, _, rfl⟩ <;> rfl

theorem filterMap_duplicateMethod?_visits (visits : List (Endpoint × Bool)) :
    (visits.flatMap (visitWarnings overrides mode)).filterMap Warning.duplicateMethod? =
      (skippedVisits visits).map fun e => (e.operation.operationId, nameFor e) := by
  induction visits with
  | nil => rfl
  | cons visit rest ih =>
    obtain ⟨endpoint, isFirst⟩ := visit
    rw [List.flatMap_cons, List.filterMap_append, filterMap_duplicateMethod?_visitWarnings, ih]
    cases isFirst <;> rfl

end Visits

theorem unusedOverrides_eq_map (overrides : Overrides) (visits : List (Endpoint × Bool)) :
    unusedOverrides overrides (visits.map Prod.fst) =
      (unknownIds overrides visits).map Warning.unusedOverride := by
  rw [unusedOverrides, unknownIds]
  induction overrides.map Prod.fst with
  | nil => rfl
  | cons id rest ih =>
    have hany : ((visits.map Prod.fst).any fun e => e.operation.operationId == id) = true ↔
        id ∈ visits.map fun v => v.1.operation.operationId := by
      rw [List.any_map, List.any_eq_true, List.mem_map]
      simp only [Function.comp_apply, beq_iff_eq]
    by_cases hid : id ∈ visits.map fun v => v.1.operation.operationId
    · rw [List.filterMap_cons, if_pos (hany.mpr hid), List.filter_cons_of_neg (by simpa using hid)]
      exact ih
    · rw [List.filterMap_cons, if_neg fun h => hid (hany.mp h),
        List.filter_cons_of_pos (by simpa using hid), List.map_cons]
      exact congrArg (List.cons _) ih

/-! ### Counts -/

private theorem sum_map_toNat {α : Type} (holds : α → Bool) (values : List α) :
    (values.map fun v => (holds v).toNat).sum = values.countP holds := by
  induction values with
  | nil => rfl
  | cons v rest ih =>
    rw [List.map_cons, List.sum_cons, ih, List.countP_cons, Nat.add_comm]
    cases holds v <;> rfl

section Build

variable [NameStyle] (document : Document) (overrides : Overrides) (mode : OverrideMode)

theorem hasBody_compiledFirst (endpoint : Endpoint) :
    (compiledFirst overrides mode endpoint).method.hasBody =
      endpoint.operation.requestSchema?.isSome := by
  rw [Method.hasBody, compiledFirst, compile_request_body, isBody_bodyPart]

theorem renamed_compiledFirst (endpoint : Endpoint) :
    (compiledFirst overrides mode endpoint).renamed =
      (keptParameters (.new overrides mode) endpoint.operation).countP fun k => k.1 ≠ k.2.name := by
  rw [compiledFirst, compile, keptParameters]

/-- The names of the methods are those in the list of operations, each where it comes first. -/
theorem map_name_build_eq_eraseDups :
    (build document overrides mode).methods.map Method.name =
      ((listedOperations document).map ListedOperation.methodName).eraseDups := by
  have hkeys : (document.endpoints.map methodEntry).map Prod.fst =
      (listedOperations document).map ListedOperation.methodName := by
    rw [listedOperations, List.map_map, List.map_map]
    rfl
  have hall (names : List String) : (names.filter fun name => name ∉ ([] : List String)) = names :=
    List.filter_eq_self.mpr fun _ _ => by simp
  rw [map_name_build, map_fst_keepFresh, hall, hkeys]

/-- The visits are reported one after the other, and then the overrides of no operation. -/
theorem warnings_build_eq_append :
    (build document overrides mode).tally.warnings =
      (visits document).flatMap (visitWarnings overrides mode) ++
        (unknownIds overrides (visits document)).map Warning.unusedOverride := by
  rw [warnings_build, ← unusedOverrides_eq_map, visits, map_fst_freshBy]

/-- The operations that are reported as skipped are those that are. -/
theorem filterMap_duplicateMethod?_build :
    (build document overrides mode).tally.warnings.filterMap Warning.duplicateMethod? =
      (skippedVisits (visits document)).map fun e => (e.operation.operationId, nameFor e) := by
  have hunused : ((unknownIds overrides (visits document)).map
      Warning.unusedOverride).filterMap Warning.duplicateMethod? = [] := by
    rw [List.filterMap_map]
    exact List.filterMap_eq_nil_iff.mpr fun _ _ => rfl
  rw [warnings_build_eq_append, List.filterMap_append, filterMap_duplicateMethod?_visits, hunused,
    List.append_nil]

/-- The overrides that are reported as not used are those of no operation. -/
theorem filterMap_unusedOverride?_build :
    (build document overrides mode).tally.warnings.filterMap Warning.unusedOverride? =
      unknownIds overrides (visits document) := by
  have hvisits : ((visits document).flatMap (visitWarnings overrides mode)).filterMap
      Warning.unusedOverride? = [] := by
    rw [List.filterMap_eq_nil_iff]
    intro w hw
    obtain ⟨visit, -, hvisit⟩ := List.mem_flatMap.mp hw
    exact unusedOverride?_of_mem_visitWarnings hvisit
  rw [warnings_build_eq_append, List.filterMap_append, hvisits, List.filterMap_map,
    List.nil_append]
  exact List.filterMap_some

/-- What is counted once for each operation that is compiled is the number of methods. -/
theorem count_eq_length_methods {count : Tally → Nat} (hcount : Tally.CountsOperations count)
    (hfirst : ∀ e, count (visitTally overrides mode (e, true)) = 1)
    (hskip : ∀ e, count (visitTally overrides mode (e, false)) = 0) :
    count (build document overrides mode).tally =
      (build document overrides mode).methods.length := by
  rw [count_build document overrides mode hcount hfirst hskip,
    methods_build_eq_map, List.length_map, List.map_const', List.sum_replicate, smul_eq_mul,
    Nat.mul_one]

theorem operations_build :
    (build document overrides mode).tally.operations =
      (build document overrides mode).methods.length :=
  count_eq_length_methods document overrides mode ⟨fun _ _ => rfl, fun _ => rfl, fun _ _ => rfl⟩
    (fun _ => rfl) (fun _ => rfl)

/-- A client has a method for the first operation of each method name, and its counts and warnings
account for every operation of the document and for every override: what is compiled is counted,
what is skipped is reported once, and the overrides of no operation are reported last. -/
theorem generate_accounts (template : Template) :
    ∃ visits, AreVisits document visits ∧
      Accounts document overrides mode visits (build document overrides mode).methods
        (generate document template overrides mode).tally := by
  refine ⟨visits document, areVisits_visits document, ?_⟩
  constructor
  case compiled => exact methods_build_eq_map document overrides mode
  case listed => exact map_name_build_eq_eraseDups document overrides mode
  case warnings => exact warnings_build_eq_append document overrides mode
  case skipped => exact filterMap_duplicateMethod?_build document overrides mode
  case unused => exact filterMap_unusedOverride?_build document overrides mode
  case operations => exact operations_build document overrides mode
  case requestTypes =>
    exact count_eq_length_methods document overrides mode
      ⟨fun _ _ => rfl, fun _ => rfl, fun _ _ => rfl⟩ (fun _ => rfl) (fun _ => rfl)
  case responseTypes =>
    exact count_eq_length_methods document overrides mode
      ⟨fun _ _ => rfl, fun _ => rfl, fun _ _ => rfl⟩ (fun _ => rfl) (fun _ => rfl)
  case total =>
    rw [generate, filterMap_duplicateMethod?_build, operations_build, length_visits,
      methods_build_eq_map, List.length_map, List.length_map]
  case withBody =>
    rw [← sum_map_toNat]
    refine count_build document overrides mode ⟨fun _ _ => rfl, fun _ => rfl, fun _ _ => rfl⟩ ?_
      (fun _ => rfl)
    intro e
    rw [← hasBody_compiledFirst overrides mode e]
    exact Nat.zero_add _
  case renamed =>
    rw [List.countP_flatMap]
    refine count_build document overrides mode ⟨fun _ _ => rfl, fun _ => rfl, fun _ _ => rfl⟩ ?_
      (fun _ => rfl)
    intro e
    rw [Function.comp_apply, ← renamed_compiledFirst overrides mode e]
    exact Nat.zero_add _

end Build

end TypedClient.Client
