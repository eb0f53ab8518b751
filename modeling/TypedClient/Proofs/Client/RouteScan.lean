import TypedClient.Proofs.Client.PathParameters
import TypedClient.Proofs.Text.Runs

/-!
# Scanning a path

A path is scanned in rounds. Each takes the text before the leftmost brace that opens and
the placeholder from there up to the next brace that closes, and the scan goes on with
what is left until that has no placeholder. Since what is left gets shorter with every
round, a path has one scan, and nothing of it is lost: the parts of the path are those of
the rounds and what is left at the end. The route is written and the placeholders are
reported round by round.
-/

namespace TypedClient.Client

open TypedClient.Api

/-- What a round of a scan takes: a run of text and the name in the braces after it. -/
structure Round where
  /-- The text. -/
  run : List Char
  /-- The name. -/
  name : List Char

/-- The characters that a round takes. -/
def Round.chars (round : Round) : List Char :=
  round.run ++ (Piece.placeholder round.name).chars

/-- Whether a text has a brace that opens and, somewhere after it, one that closes. -/
def HasPlaceholder (text : List Char) : Prop :=
  ∃ before name after, text = before ++ (Piece.placeholder name).chars ++ after

/-- A round takes the start of a text and leaves the rest. -/
structure Round.Takes (round : Round) (text rest : List Char) : Prop where
  /-- Nothing is lost. -/
  text_eq : text = round.chars ++ rest
  /-- The brace that opens is the leftmost. -/
  leftmost : '\x7b' ∉ round.run
  /-- The brace that closes is the next after it. -/
  next : '\x7d' ∉ round.name

/-- The scan of a text: its rounds, and what is left when no placeholder is. -/
inductive Scans : List Char → List Round → List Char → Prop where
  /-- The scan is over. -/
  | stops {text : List Char} (h : ¬ HasPlaceholder text) : Scans text [] text
  /-- It goes on after a round. -/
  | goesOn {text rest last : List Char} {round : Round} {rounds : List Round}
      (h : round.Takes text rest) (hr : Scans rest rounds last) : Scans text (round :: rounds) last

/-! ### Rounds -/

/-- A text up to the first place of a character is fixed by the whole. -/
private theorem append_cons_inj {c : Char} {a b x y : List Char} (ha : c ∉ a) (hb : c ∉ b)
    (h : a ++ c :: x = b ++ c :: y) : a = b ∧ x = y := by
  have hrun {run : List Char} (hr : c ∉ run) : ∀ d ∈ run, (d != c) = true := by
    intro d hd
    rw [bne_iff_ne]
    rintro rfl
    exact hr hd
  have hcut := congrArg (List.takeWhile (· != c)) h
  rw [Text.takeWhile_append (hrun ha) (by simp), Text.takeWhile_append (hrun hb) (by simp)] at hcut
  subst hcut
  exact ⟨rfl, (List.cons.inj (List.append_cancel_left h)).2⟩

namespace Round

variable {round : Round} {text rest : List Char}

theorem chars_append (round : Round) (rest : List Char) :
    round.chars ++ rest = round.run ++ '\x7b' :: (round.name ++ '\x7d' :: rest) := by
  simp [chars, Piece.chars]

/-- What a round leaves is shorter than what it started from. -/
theorem Takes.length_lt (h : round.Takes text rest) : rest.length < text.length := by
  rw [h.text_eq, chars_append]
  simp
  omega

/-- A text has a placeholder if a round can start from it. -/
theorem Takes.hasPlaceholder (h : round.Takes text rest) : HasPlaceholder text :=
  ⟨round.run, round.name, rest, h.text_eq⟩

/-- A text with a placeholder has a leftmost one. -/
theorem exists_takes (h : HasPlaceholder text) : ∃ (round : Round) (rest : List Char),
    round.Takes text rest := by
  obtain ⟨before, name, after, rfl⟩ := h
  have hopen : '\x7b' ∈ before ++ (Piece.placeholder name).chars ++ after := by simp [Piece.chars]
  obtain ⟨run, tail, htext, hrun⟩ := List.eq_append_cons_of_mem hopen
  have hclose : '\x7d' ∈ tail := by
    rw [List.append_assoc] at htext
    rcases List.append_eq_append_iff.mp htext with ⟨between, hr, ht⟩ | ⟨between, -, ht⟩
    · cases between with
      | nil => simp [(List.cons.inj ht).2.symm]
      | cons c between =>
        obtain ⟨rfl, -⟩ := List.cons.inj ht
        exact absurd (by simp [hr]) hrun
    · cases between with
      | nil => simp [(List.cons.inj ht).2]
      | cons c between => simp [(List.cons.inj ht).2, Piece.chars]
  obtain ⟨name', rest, rfl, hname⟩ := List.eq_append_cons_of_mem hclose
  refine ⟨⟨run, name'⟩, rest, ?_, hrun, hname⟩
  rw [htext, chars_append]

/-- A text has one first round. -/
theorem Takes.unique {other : Round} {rest' : List Char} (h : round.Takes text rest)
    (h' : other.Takes text rest') : round = other ∧ rest = rest' := by
  have htext := h.text_eq.symm.trans h'.text_eq
  rw [chars_append, chars_append] at htext
  obtain ⟨hrun, htail⟩ := append_cons_inj h.leftmost h'.leftmost htext
  obtain ⟨hname, hrest⟩ := append_cons_inj h.next h'.next htail
  obtain ⟨run, name⟩ := round
  obtain ⟨run', name'⟩ := other
  obtain rfl : run = run' := hrun
  obtain rfl : name = name' := hname
  exact ⟨rfl, hrest⟩

end Round

/-! ### Scans -/

section Scans

variable {text last : List Char} {rounds : List Round}

/-- Every text has a scan: what is left gets shorter with every round. -/
theorem exists_scans (text : List Char) : ∃ rounds last, Scans text rounds last := by
  induction hn : text.length using Nat.strong_induction_on generalizing text with
  | h n ih =>
    by_cases h : HasPlaceholder text
    · obtain ⟨round, rest, ht⟩ := Round.exists_takes h
      obtain ⟨rounds, last, hr⟩ := ih rest.length (hn ▸ ht.length_lt) rest rfl
      exact ⟨round :: rounds, last, .goesOn ht hr⟩
    · exact ⟨[], text, .stops h⟩

/-- A text has one scan. -/
theorem Scans.unique {rounds' : List Round} {last' : List Char} (h : Scans text rounds last)
    (h' : Scans text rounds' last') : rounds' = rounds ∧ last' = last := by
  induction h generalizing rounds' with
  | stops hnone =>
    cases h' with
    | stops => exact ⟨rfl, rfl⟩
    | goesOn ht => exact absurd ht.hasPlaceholder hnone
  | goesOn ht hr ih =>
    cases h' with
    | stops hnone => exact absurd ht.hasPlaceholder hnone
    | goesOn ht' hr' =>
      obtain ⟨rfl, rfl⟩ := ht.unique ht'
      obtain ⟨rfl, rfl⟩ := ih hr'
      exact ⟨rfl, rfl⟩

/-- A scan loses nothing. -/
theorem Scans.text_eq (h : Scans text rounds last) : text = rounds.flatMap Round.chars ++ last := by
  induction h with
  | stops => rfl
  | goesOn ht hr ih => rw [ht.text_eq, ih, List.flatMap_cons, List.append_assoc]

/-- What is left at the end has no placeholder. -/
theorem Scans.not_hasPlaceholder (h : Scans text rounds last) : ¬ HasPlaceholder last := by
  induction h with
  | stops hnone => exact hnone
  | goesOn _ _ ih => exact ih

/-! ### Pieces -/

theorem piecesFrom_inText {run : List Char} (h : '\x7b' ∉ run) (soFar rest : List Char) :
    piecesFrom (.inText soFar) (run ++ rest) = piecesFrom (.inText (run.reverse ++ soFar)) rest := by
  induction run generalizing soFar with
  | nil => rfl
  | cons c run ih =>
    rw [List.mem_cons, not_or] at h
    rw [List.cons_append, piecesFrom, if_neg (Ne.symm h.1), ih h.2, List.reverse_cons,
      List.append_assoc]
    rfl

theorem piecesFrom_inName {name : List Char} (h : '\x7d' ∉ name) (run soFar rest : List Char) :
    piecesFrom (.inName run soFar) (name ++ rest) =
      piecesFrom (.inName run (name.reverse ++ soFar)) rest := by
  induction name generalizing soFar with
  | nil => rfl
  | cons c name ih =>
    rw [List.mem_cons, not_or] at h
    rw [List.cons_append, piecesFrom, if_neg (Ne.symm h.1), ih h.2, List.reverse_cons,
      List.append_assoc]
    rfl

/-- A round cuts off a run of text and a placeholder. -/
theorem Round.Takes.pieces_eq {round : Round} {rest : List Char} (h : round.Takes text rest) :
    pieces text = .text round.run :: .placeholder round.name :: pieces rest := by
  rw [h.text_eq, Round.chars_append, pieces, piecesFrom_inText h.leftmost, piecesFrom, if_pos rfl,
    piecesFrom_inName h.next, piecesFrom, if_pos rfl]
  simp [pieces]

/-- A text without a placeholder is one run. -/
theorem pieces_of_not_hasPlaceholder (h : ¬ HasPlaceholder text) : pieces text = [.text text] := by
  by_cases hopen : '\x7b' ∈ text
  · obtain ⟨run, tail, rfl, hrun⟩ := List.eq_append_cons_of_mem hopen
    have hclose : '\x7d' ∉ tail := by
      intro hclose
      obtain ⟨name, rest, rfl, -⟩ := List.eq_append_cons_of_mem hclose
      exact h ⟨run, name, rest, by simp [Piece.chars]⟩
    have hname := piecesFrom_inName hclose run.reverse [] []
    rw [List.append_nil] at hname
    rw [pieces, piecesFrom_inText hrun, piecesFrom, if_pos rfl, List.append_nil, hname]
    simp [piecesFrom]
  · have htext := piecesFrom_inText hopen [] []
    rw [List.append_nil] at htext
    rw [pieces, htext]
    simp [piecesFrom]

/-- The pieces of a path are those that its scan takes, and what is left. -/
theorem Scans.pieces_eq (h : Scans text rounds last) :
    pieces text =
      rounds.flatMap (fun round => [.text round.run, .placeholder round.name]) ++ [.text last] := by
  induction h with
  | stops hnone => rw [pieces_of_not_hasPlaceholder hnone]; rfl
  | goesOn ht hr ih => rw [ht.pieces_eq, ih]; rfl

end Scans

/-! ### Routes -/

/-- The operation and the placeholder that a warning reports as one without an argument. -/
def Warning.unknownPlaceholder? : Warning → Option (String × String)
  | .unknownPlaceholder id placeholder => some (id, placeholder)
  | _ => none

/-- What is written for a placeholder: an interpolation of the first argument that the service knows
by the name, or else the placeholder itself with escapes. -/
def Method.placeholderText (m : Method) (name : List Char) : List Char :=
  match m.arguments.find? fun a => a.serviceName == String.ofList name with
  | some a => '$' :: '\x7b' :: (a.binding.toList ++ ['\x7d'])
  | none => escapeRun (Piece.placeholder name).chars

/-- What a scan of the path of a method makes of it. -/
structure Method.IsScanned (m : Method) (rounds : List Round) (last : List Char) : Prop where
  /-- The scan ends. -/
  scans : Scans m.path.toList rounds last
  /-- There is no other. -/
  unique : ∀ rounds' last', Scans m.path.toList rounds' last' → rounds' = rounds ∧ last' = last
  /-- The path is what the rounds have taken, in order, and what is left. -/
  path : m.path.toList = rounds.flatMap Round.chars ++ last
  /-- There is no placeholder in what is left. -/
  left : ¬ HasPlaceholder last
  /-- The route is written round by round, and what is left is escaped. -/
  route : m.route.toList =
    rounds.flatMap (fun round => escapeRun round.run ++ m.placeholderText round.name) ++
      escapeRun last
  /-- The placeholders without an argument are known in order, as often as they stand there. -/
  unknown : unknownPlaceholders m.binding? m.path.toList =
    (rounds.map fun round => String.ofList round.name).filter fun name =>
      name ∉ m.arguments.map Argument.serviceName

section Routes

variable (m : Method)

theorem binding?_eq_none_iff {m : Method} {name : String} :
    m.binding? name = none ↔ name ∉ m.arguments.map Argument.serviceName := by
  rw [Method.binding?, Option.map_eq_none_iff, List.find?_eq_none]
  simp only [List.mem_map, not_exists, not_and, beq_iff_eq]

theorem literalText_placeholder (name : List Char) :
    ((Piece.placeholder name).part m.binding?).literalText.toList = m.placeholderText name := by
  rw [Method.placeholderText]
  cases hf : m.arguments.find? fun a => a.serviceName == String.ofList name with
  | none => exact literalText_of_none (by rw [Method.binding?, hf, Option.map_none])
  | some a => exact literalText_of_some (by rw [Method.binding?, hf, Option.map_some])

theorem literalText_text (run : List Char) :
    ((Piece.text run).part m.binding?).literalText.toList = escapeRun run :=
  String.toList_ofList

variable {m}

/-- The route is written round by round. -/
theorem Scans.toList_route {rounds : List Round} {last : List Char}
    (h : Scans m.path.toList rounds last) :
    m.route.toList =
      rounds.flatMap (fun round => escapeRun round.run ++ m.placeholderText round.name) ++
        escapeRun last := by
  rw [Method.route, routeText, String.toList_join, h.pieces_eq]
  simp [List.flatMap_map, List.flatMap_assoc, literalText_placeholder, literalText_text]

/-- The placeholders without an argument are known round by round. -/
theorem Scans.unknownPlaceholders_eq {rounds : List Round} {last : List Char}
    (h : Scans m.path.toList rounds last) :
    unknownPlaceholders m.binding? m.path.toList =
      (rounds.map fun round => String.ofList round.name).filter fun name =>
        name ∉ m.arguments.map Argument.serviceName := by
  rw [unknownPlaceholders, h.pieces_eq]
  clear h
  induction rounds with
  | nil => rfl
  | cons round rounds ih =>
    rw [List.flatMap_cons, List.append_assoc, List.filterMap_append, ih, List.map_cons]
    cases hb : m.binding? (String.ofList round.name) with
    | none =>
      have hname := binding?_eq_none_iff.mp hb
      rw [List.filter_cons_of_pos (by simpa using hname)]
      simp [hb]
    | some binding =>
      have hname : String.ofList round.name ∈ m.arguments.map Argument.serviceName := by
        by_contra hname
        rw [binding?_eq_none_iff.mpr hname] at hb
        contradiction
      rw [List.filter_cons_of_neg (by simpa using hname)]
      simp [hb]

end Routes

/-- Each placeholder without an argument is reported by a warning. -/
theorem filterMap_unknownPlaceholder?_warnings [NameStyle] (r : Resolver) (endpoint : Endpoint) :
    (compile r endpoint).1.warnings.filterMap Warning.unknownPlaceholder? =
      (unknownPlaceholders (compile r endpoint).1.method.binding? endpoint.path.toList).map
        fun name => (endpoint.operation.operationId, name) := by
  obtain ⟨notes, fields, hw⟩ := exists_warnings_eq r endpoint
  have hnotes : (notes.map (Warning.ofNote endpoint.operation.operationId)).filterMap
      Warning.unknownPlaceholder? = [] := by
    simp [Warning.ofNote, Warning.unknownPlaceholder?]
  have hfields : (fields.map (Warning.duplicateField endpoint.operation.operationId)).filterMap
      Warning.unknownPlaceholder? = [] := by
    simp [Warning.unknownPlaceholder?]
  rw [hw, List.filterMap_append, List.filterMap_append, hnotes, hfields, List.filterMap_map,
    ← List.filterMap_eq_map]
  rfl

/-- The scan of a path ends, whatever the path and the arguments are, and loses nothing. A method
for an operation has the path of the operation, and there is a warning for each placeholder that
no argument is known by, in order and as often as it stands there. -/
theorem paths_scanned [NameStyle] :
    (∀ m : Method, ∃ rounds last, m.IsScanned rounds last) ∧
      ∀ (r : Resolver) (endpoint : Endpoint),
        let c := (compile r endpoint).1
        c.method.path = endpoint.path ∧
          c.warnings.filterMap Warning.unknownPlaceholder? =
            (unknownPlaceholders c.method.binding? c.method.path.toList).map
              fun name => (endpoint.operation.operationId, name) := by
  constructor
  · intro m
    obtain ⟨rounds, last, h⟩ := exists_scans m.path.toList
    refine ⟨rounds, last, ?_⟩
    exact { scans := h
            unique := fun _ _ => h.unique
            path := h.text_eq
            left := h.not_hasPlaceholder
            route := h.toList_route
            unknown := h.unknownPlaceholders_eq }
  · intro r endpoint
    dsimp only
    rw [compile_path]
    exact ⟨rfl, filterMap_unknownPlaceholder?_warnings r endpoint⟩

/-- A brace that opens in a name belongs to the name, and one that nothing closes to the end. -/
example : unknownPlaceholders (fun name => if name = "id" then some "id" else none)
    "/\x7ba\x7bid\x7d/\x7bid\x7d\x7b\x7d/\x7ba\x7bid\x7d\x7d/\x7bid".toList =
      ["a\x7bid", "", "a\x7bid"] := by decide

end TypedClient.Client
