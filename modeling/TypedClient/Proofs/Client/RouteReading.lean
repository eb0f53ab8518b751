import TypedClient.Client.Method
import TypedClient.Proofs.Naming.Locals
import TypedClient.Proofs.Script.TemplateLiteral

/-!
# Reading routes

The route of a method, read as a template literal, says its path: an argument stands
in place of each placeholder that is its name, and all else is text. One kind of path
is read in another way. A dollar sign is not escaped at the end of a run of text, so a
placeholder after it that has no argument becomes an interpolation.
-/

namespace TypedClient.Client

open TypedClient.Script

/-! ### Parts of a path -/

/-- Runs of text with a placeholder between each and the next. -/
inductive Alternating : List Piece → Prop where
  /-- A run of text. -/
  | last (run : List Char) : Alternating [.text run]
  /-- A run of text and a placeholder before more. -/
  | more {run name : List Char} {rest : List Piece} (hname : '\x7d' ∉ name)
      (hrest : Alternating rest) : Alternating (.text run :: .placeholder name :: rest)

/-- A name that is being read has no brace that closes. -/
def Cut.IsOpen : Cut → Prop
  | .inText _ => True
  | .inName _ name => '\x7d' ∉ name

theorem alternating_piecesFrom {cut : Cut} (h : cut.IsOpen) (rest : List Char) :
    Alternating (piecesFrom cut rest) := by
  fun_induction piecesFrom cut rest with
  | case1 run => exact .last _
  | case2 run name => exact .last _
  | case3 run rest ih => exact ih List.not_mem_nil
  | case4 run c rest hc ih => exact ih trivial
  | case5 run name rest ih => exact .more (by simpa [Cut.IsOpen] using h) (ih trivial)
  | case6 run name c rest hc ih =>
    refine ih ?_
    rw [Cut.IsOpen, List.mem_cons, not_or]
    exact ⟨Ne.symm hc, h⟩

/-- A path is runs of text with a placeholder between each and the next. -/
theorem alternating_pieces (path : List Char) : Alternating (pieces path) :=
  alternating_piecesFrom (show (Cut.inText []).IsOpen from trivial) path

/-! ### What a route says -/

section Items

variable (binding? : String → Option String)

/-- What is said for a run of text and the placeholder after it. -/
def segmentItems (run name : List Char) : List TemplateItem :=
  match binding? (String.ofList name) with
  | some binding => run.map .char ++ [.value binding.toList]
  | none =>
    if run.getLast? = some '$' then run.dropLast.map .char ++ [.value (escapeRun name)]
    else (run ++ (Piece.placeholder name).chars).map .char

/-- What is said for the parts of a path. -/
def routeItems : List Piece → List TemplateItem
  | .text run :: .placeholder name :: rest => segmentItems binding? run name ++ routeItems rest
  | [.text run] => run.map .char
  | _ => []

variable {binding?}

/-- A placeholder that has a binding is written as an interpolation of it. -/
theorem literalText_of_some {name : List Char} {binding : String}
    (h : binding? (String.ofList name) = some binding) :
    ((Piece.placeholder name).part binding?).literalText.toList =
      '$' :: '\x7b' :: (binding.toList ++ ['\x7d']) := by
  rw [Piece.part, h]
  simp [RoutePart.literalText]

/-- A placeholder that has none is written as the text that it is. -/
theorem literalText_of_none {name : List Char} (h : binding? (String.ofList name) = none) :
    ((Piece.placeholder name).part binding?).literalText.toList =
      escapeRun (Piece.placeholder name).chars := by
  rw [Piece.part, h, RoutePart.literalText, String.toList_ofList]

private theorem escapeRun_placeholder (name : List Char) :
    escapeRun (Piece.placeholder name).chars = '\x7b' :: (escapeRun name ++ ['\x7d']) := by
  rw [Piece.chars, List.cons_append, escapeRun.eq_3 _ _ (by simp), if_neg (by decide),
    if_neg (by decide), escapeRun_append_brace]

private theorem runReading_placeholder (name : List Char) :
    runReading (Piece.placeholder name).chars =
      ((Piece.placeholder name).chars.map .char, .text) := by
  rw [runReading, if_neg]
  rw [Piece.chars, List.getLast?_concat]
  decide

/-- A run of text and the placeholder after it are read as they should be, or the dollar sign at
the end of the run opens an interpolation. -/
theorem feed_segment (run : List Char) {name : List Char} (hname : '\x7d' ∉ name)
    (hb : ∀ binding, binding? (String.ofList name) = some binding → '\x7d' ∉ binding.toList) :
    feed TemplateMode.step .text
        (escapeRun run ++ ((Piece.placeholder name).part binding?).literalText.toList) =
      some (segmentItems binding? run name, .text) := by
  have hr := feed_escapeRun run
  rw [runReading] at hr
  by_cases hd : run.getLast? = some '$'
  · rw [if_pos hd] at hr
    cases hm : binding? (String.ofList name) with
    | none =>
      rw [feed_append_eq hr, literalText_of_none hm, escapeRun_placeholder,
        feed_cons TemplateMode.step_open, feed_value [] (brace_not_mem_escapeRun hname),
        segmentItems, hm]
      simp [hd]
    | some binding =>
      rw [feed_append_eq hr, literalText_of_some hm, feed_dollar_interpolation (hb _ hm),
        segmentItems, hm]
      have he : run = run.dropLast ++ ['$'] := (List.dropLast_append_getLast? _ hd).symm
      rw [he]
      simp
  · rw [if_neg hd] at hr
    cases hm : binding? (String.ofList name) with
    | none =>
      rw [feed_append_eq hr, literalText_of_none hm, feed_escapeRun, runReading_placeholder,
        segmentItems, hm]
      simp [hd]
    | some binding =>
      rw [feed_append_eq hr, literalText_of_some hm, feed_interpolation (hb _ hm),
        segmentItems, hm]
      rfl

/-- What a route says, in whatever way its dollar signs stand. -/
theorem readTemplate_parts {parts : List Piece} (h : Alternating parts)
    (hb : ∀ name binding, binding? name = some binding → '\x7d' ∉ binding.toList) :
    readTemplate (String.join (parts.map fun p => (p.part binding?).literalText)).toList =
      some (routeItems binding? parts) := by
  rw [String.toList_join]
  induction h with
  | last run =>
    have ht : ((Piece.text run).part binding?).literalText.toList = escapeRun run :=
      String.toList_ofList
    rw [List.map_singleton, List.flatMap_singleton, ht, readTemplate_escapeRun]
    rfl
  | @more run name rest hname hrest ih =>
    have ht : ((Piece.text run).part binding?).literalText.toList = escapeRun run :=
      String.toList_ofList
    rw [List.map_cons, List.map_cons, List.flatMap_cons, List.flatMap_cons, ht, ← List.append_assoc,
      readTemplate_append (feed_segment run hname fun _ => hb _ _), ih]
    rfl

end Items

/-! ### Where a route says its path -/

section Paths

variable (binding? : String → Option String)

/-- The placeholder with its binding if it has one. -/
def matchedPiece : Piece → Option (List Char × List Char)
  | .text _ => none
  | .placeholder name => (binding? (String.ofList name)).map fun b => (name, b.toList)

/-- The placeholders that have a binding, each with its binding, in order. -/
def matched (parts : List Piece) : List (List Char × List Char) :=
  parts.filterMap (matchedPiece binding?)

/-- Every placeholder that comes right after a dollar sign has a binding. -/
def DollarsFree (parts : List Piece) : Prop :=
  ∀ run name, [.text run, .placeholder name] <:+: parts → run.getLast? = some '$' →
    (binding? (String.ofList name)).isSome

variable {binding?} {run name : List Char} {rest : List Piece}

theorem matched_cons_of_some {binding : String}
    (h : binding? (String.ofList name) = some binding) :
    matched binding? (.text run :: .placeholder name :: rest) =
      (name, binding.toList) :: matched binding? rest := by
  have hp : matchedPiece binding? (.placeholder name) = some (name, binding.toList) := by
    rw [matchedPiece, h, Option.map_some]
  rw [matched, List.filterMap_cons_none rfl, List.filterMap_cons_some hp]
  rfl

theorem matched_cons_of_none (h : binding? (String.ofList name) = none) :
    matched binding? (.text run :: .placeholder name :: rest) = matched binding? rest := by
  have hp : matchedPiece binding? (.placeholder name) = none := by
    rw [matchedPiece, h, Option.map_none]
  rw [matched, List.filterMap_cons_none rfl, List.filterMap_cons_none hp]
  rfl

theorem length_interpolations_of_some {binding : String}
    (h : binding? (String.ofList name) = some binding) :
    (interpolations (segmentItems binding? run name)).length = 1 := by
  rw [segmentItems, h]
  dsimp only
  rw [interpolations_append, interpolations_chars]
  rfl

theorem length_interpolations_of_dollar (h : binding? (String.ofList name) = none)
    (hd : run.getLast? = some '$') :
    (interpolations (segmentItems binding? run name)).length = 1 := by
  rw [segmentItems, h]
  dsimp only
  rw [if_pos hd, interpolations_append, interpolations_chars]
  rfl

theorem dollarsFree_last (run : List Char) : DollarsFree binding? [.text run] := by
  intro r n h
  have hl := h.length_le
  simp at hl

theorem dollarsFree_cons :
    DollarsFree binding? (.text run :: .placeholder name :: rest) ↔
      (run.getLast? = some '$' → (binding? (String.ofList name)).isSome) ∧
        DollarsFree binding? rest := by
  constructor
  · intro h
    refine ⟨h run name ⟨[], rest, rfl⟩, fun r n hi => h r n ?_⟩
    exact hi.trans (List.suffix_append [_, _] rest).isInfix
  · rintro ⟨hfirst, hrest⟩ r n hi
    rcases List.infix_cons_iff.mp hi with hp | hi
    · obtain ⟨hr, hp⟩ := List.cons_prefix_cons.mp hp
      obtain ⟨hn, -⟩ := List.cons_prefix_cons.mp hp
      cases hr
      cases hn
      exact hfirst
    · rcases List.infix_cons_iff.mp hi with hp | hi
      · exact absurd (List.cons_prefix_cons.mp hp).1 (by simp)
      · exact hrest r n hi

/-- If no dollar sign opens an interpolation, the interpolations are those of the bindings of the
placeholders that have one, and with those placeholders put back the text is the path. -/
theorem routeItems_of_dollarsFree {parts : List Piece} (h : Alternating parts)
    (hd : DollarsFree binding? parts) :
    interpolations (routeItems binding? parts) = (matched binding? parts).map Prod.snd ∧
      putBack ((matched binding? parts).map Prod.fst) (routeItems binding? parts) =
        parts.flatMap Piece.chars := by
  induction h with
  | last run =>
    have hm : matched binding? [.text run] = [] := rfl
    have hp := putBack_chars_append [] run []
    rw [List.append_nil] at hp
    rw [routeItems, interpolations_chars, hm, List.map_nil, List.map_nil, hp]
    simp [putBack, Piece.chars]
  | @more run name rest hname hrest ih =>
    obtain ⟨hfirst, hd⟩ := dollarsFree_cons.mp hd
    obtain ⟨hi, hp⟩ := ih hd
    rw [routeItems, segmentItems]
    cases hm : binding? (String.ofList name) with
    | none =>
      have hne : run.getLast? ≠ some '$' := fun h => by simpa [hm] using hfirst h
      rw [matched_cons_of_none hm]
      dsimp only
      rw [if_neg hne, interpolations_append, interpolations_chars, putBack_chars_append, hi, hp]
      simp [Piece.chars]
    | some binding =>
      rw [matched_cons_of_some hm]
      dsimp only
      rw [List.append_assoc, List.singleton_append, interpolations_append, interpolations_chars,
        interpolations_value_cons, List.map_cons, List.map_cons, putBack_chars_append, putBack, hi,
        hp]
      simp [Piece.chars]

/-- There is an interpolation for each placeholder that has a binding. -/
theorem length_matched_le {parts : List Piece} (h : Alternating parts) :
    (matched binding? parts).length ≤ (interpolations (routeItems binding? parts)).length := by
  induction h with
  | last run => exact Nat.zero_le _
  | @more run name rest hname hrest ih =>
    rw [routeItems, interpolations_append, List.length_append]
    cases hm : binding? (String.ofList name) with
    | none =>
      rw [matched_cons_of_none hm]
      exact ih.trans (Nat.le_add_left _ _)
    | some binding =>
      rw [matched_cons_of_some hm, List.length_cons, length_interpolations_of_some hm]
      omega

/-- If there are no more than those, no dollar sign opens an interpolation. -/
theorem dollarsFree_of_length_le {parts : List Piece} (h : Alternating parts)
    (hl : (interpolations (routeItems binding? parts)).length ≤ (matched binding? parts).length) :
    DollarsFree binding? parts := by
  induction h with
  | last run => exact dollarsFree_last run
  | @more run name rest hname hrest ih =>
    have hle : (matched binding? rest).length ≤ _ := length_matched_le hrest
    rw [routeItems, interpolations_append, List.length_append] at hl
    rw [dollarsFree_cons]
    cases hm : binding? (String.ofList name) with
    | none =>
      rw [matched_cons_of_none hm] at hl
      refine ⟨fun hd => ?_, ih (by omega)⟩
      rw [length_interpolations_of_dollar hm hd] at hl
      omega
    | some binding =>
      rw [matched_cons_of_some hm, List.length_cons, length_interpolations_of_some hm] at hl
      exact ⟨fun _ => rfl, ih (by omega)⟩

end Paths

/-- Whether the route, read as a template literal, says the path: it interpolates the binding of
each placeholder that is the name of an argument and nothing else, and with those placeholders
put back its text is the path. -/
def Method.SaysPath (m : Method) : Prop :=
  let arguments := matched m.binding? (pieces m.path.toList)
  ∃ items, readTemplate m.route.toList = some items ∧
    interpolations items = arguments.map Prod.snd ∧
    putBack (arguments.map Prod.fst) items = m.path.toList

private theorem brace_not_mem_binding {m : Method} {name binding : String}
    (h : ∀ a ∈ m.arguments, isIdentifier a.binding.toList = true)
    (hb : m.binding? name = some binding) : '\x7d' ∉ binding.toList := by
  rw [Method.binding?, Option.map_eq_some_iff] at hb
  obtain ⟨a, ha, rfl⟩ := hb
  intro hm
  have hi := inIdentifier_of_mem_identifier (h a (List.mem_of_find?_eq_some ha)) hm
  exact absurd hi (by decide)

/-- A route can be read as a template literal. -/
theorem Method.readTemplate_route (m : Method)
    (h : ∀ a ∈ m.arguments, isIdentifier a.binding.toList = true) :
    readTemplate m.route.toList = some (routeItems m.binding? (pieces m.path.toList)) :=
  readTemplate_parts (alternating_pieces m.path.toList) fun _ _ hb => brace_not_mem_binding h hb

/-- A route says its path exactly when every placeholder that comes right after a dollar sign is
the name of an argument. -/
theorem Method.saysPath_iff (m : Method)
    (h : ∀ a ∈ m.arguments, isIdentifier a.binding.toList = true) :
    m.SaysPath ↔ DollarsFree m.binding? (pieces m.path.toList) := by
  have halt := alternating_pieces m.path.toList
  have hread := m.readTemplate_route h
  constructor
  · rintro ⟨items, hr, hi, -⟩
    obtain rfl : routeItems m.binding? (pieces m.path.toList) = items := by
      rwa [hread, Option.some_inj] at hr
    refine dollarsFree_of_length_le halt ?_
    rw [hi, List.length_map]
  · intro hd
    obtain ⟨hi, hp⟩ := routeItems_of_dollarsFree halt hd
    refine ⟨_, hread, hi, ?_⟩
    rw [hp, pieces, flatMap_chars_piecesFrom]
    rfl

/-- A method whose path has a placeholder right after a dollar sign. -/
def dollarMethod (arguments : List Argument) : Method where
  name := "getItem"
  documentation := none
  verb := .get
  path := "/a/$\x7bid\x7d"
  arguments := arguments
  request := ⟨"HighSystemsRequestGetItem", [], .none⟩
  response := ⟨"HighSystemsResponseGetItem", .any⟩
  optionsOptional := true

/-- With an argument for the placeholder the route says the path. -/
theorem dollarMethod_saysPath :
    (∀ a ∈ (dollarMethod [⟨"id", "id", "id", none⟩]).arguments,
      isIdentifier a.binding.toList = true) ∧
    (dollarMethod [⟨"id", "id", "id", none⟩]).SaysPath := by
  have hp : pieces (dollarMethod [⟨"id", "id", "id", none⟩]).path.toList =
      [.text ['/', 'a', '/', '$'], .placeholder ['i', 'd'], .text []] := by decide
  have hid : ∀ a ∈ (dollarMethod [⟨"id", "id", "id", none⟩]).arguments,
      isIdentifier a.binding.toList = true := by decide
  refine ⟨hid, (Method.saysPath_iff _ hid).mpr ?_⟩
  rw [hp, dollarsFree_cons]
  exact ⟨fun _ => by decide, dollarsFree_last []⟩

/-- Without one the route is the path, of which the placeholder is read as an interpolation. -/
theorem dollarMethod_not_saysPath :
    (∀ a ∈ (dollarMethod []).arguments, isIdentifier a.binding.toList = true) ∧
    ¬ (dollarMethod []).SaysPath := by
  refine ⟨by simp [dollarMethod], ?_⟩
  rintro ⟨items, hr, hi, -⟩
  have hread : readTemplate (dollarMethod []).route.toList =
      some [.char '/', .char 'a', .char '/', .value ['i', 'd']] := by decide
  obtain rfl := Option.some.inj (hread.symm.trans hr)
  exact absurd hi (by decide)

end TypedClient.Client
