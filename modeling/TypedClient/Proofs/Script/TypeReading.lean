import TypedClient.Proofs.Script.TypeGrammar

/-!
# Reading types

A type is read from its tokens by a machine that takes one token after the other. What
is still open around the operand that it reads stands on a stack: a parenthesis, or a
member of a record. The machine reads whatever the grammar derives, as the grammar
says; and since it reads tokens in one way only, they are those of one declaration at
most (`declares_unique`).
-/

namespace TypedClient.Script

open TypedClient.Client

/-! ### The machine -/

/-- What is open around an operand. The alternatives before it are those of the type around. -/
inductive Frame where
  /-- A parenthesis. -/
  | group (before : List TypeTree)
  /-- A member of a record, with the members before it. -/
  | member (before : List TypeTree) (done : List (MemberHead × TypeTree)) (head : MemberHead)

/-- Where in a type its reader is. -/
inductive Place where
  /-- Before an operand. -/
  | operand
  /-- After the sign of a number. -/
  | minus
  /-- After an operand. -/
  | after (type : TypeTree)
  /-- After an operand and an opening bracket. -/
  | bracket (type : TypeTree)
  /-- In a record, after some members. -/
  | members (done : List (MemberHead × TypeTree))
  /-- After the key of a member. -/
  | key (done : List (MemberHead × TypeTree)) (key : String)
  /-- After the key of a member that may be left out. -/
  | question (done : List (MemberHead × TypeTree)) (key : String)
  /-- After the declaration. -/
  | ended (type : TypeTree)

/-- A reader of a type. -/
structure TypeReader where
  /-- What is open, from the inside. -/
  stack : List Frame
  /-- The alternatives before the operand. -/
  before : List TypeTree
  /-- Where the reader is. -/
  place : Place

namespace TypeReader

/-- Reads the first token of an operand. -/
def operandStep (stack : List Frame) (before : List TypeTree) : Token → Option TypeReader
  | .word text => (wordType? text).map fun type => ⟨stack, before, .after type⟩
  | .string value => some ⟨stack, before, .after (.string value)⟩
  | .mark '-' => some ⟨stack, before, .minus⟩
  | .mark '(' => some ⟨.group before :: stack, [], .operand⟩
  | .mark '\x7b' => some ⟨stack, before, .members []⟩
  | _ => none

/-- Reads a token after an operand. -/
def afterStep (stack : List Frame) (before : List TypeTree) (type : TypeTree) :
    Token → Option TypeReader
  | .mark '[' => some ⟨stack, before, .bracket type⟩
  | .mark '|' => some ⟨stack, before ++ [type], .operand⟩
  | .mark ')' =>
    match stack with
    | .group outer :: rest => some ⟨rest, outer, .after (unionOf (before ++ [type]))⟩
    | _ => none
  | .mark ';' =>
    match stack with
    | [] => some ⟨[], [], .ended (unionOf (before ++ [type]))⟩
    | .member outer done head :: rest =>
      some ⟨rest, outer, .members (done ++ [(head, unionOf (before ++ [type]))])⟩
    | _ => none
  | _ => none

/-- Reads a token between the members of a record. -/
def membersStep (stack : List Frame) (before : List TypeTree)
    (done : List (MemberHead × TypeTree)) : Token → Option TypeReader
  | .mark '\x7d' => some ⟨stack, before, .after (.record done)⟩
  | t => (key? t).map fun key => ⟨stack, before, .key done key⟩

/-- Reads a token. -/
def step : TypeReader → Token → Option TypeReader
  | ⟨stack, before, .operand⟩, t => operandStep stack before t
  | ⟨stack, before, .minus⟩, .word text =>
    (numeral? text.toList).map fun value => ⟨stack, before, .after (.number (-value))⟩
  | ⟨stack, before, .after type⟩, t => afterStep stack before type t
  | ⟨stack, before, .bracket type⟩, .mark ']' => some ⟨stack, before, .after (.array type)⟩
  | ⟨stack, before, .members done⟩, t => membersStep stack before done t
  | ⟨stack, before, .key done key⟩, .mark '?' => some ⟨stack, before, .question done key⟩
  | ⟨stack, before, .key done key⟩, .mark ':' =>
    some ⟨.member before done ⟨key, false⟩ :: stack, [], .operand⟩
  | ⟨stack, before, .question done key⟩, .mark ':' =>
    some ⟨.member before done ⟨key, true⟩ :: stack, [], .operand⟩
  | _, _ => none

/-- Reads tokens. -/
def run (reader : TypeReader) : List Token → Option TypeReader
  | [] => some reader
  | t :: rest => (reader.step t).bind fun next => next.run rest

theorem run_cons {reader next : TypeReader} {t : Token} (h : reader.step t = some next)
    (rest : List Token) : reader.run (t :: rest) = next.run rest := by
  rw [run, h, Option.bind_some]

/-- Reading goes on where it was left. -/
theorem run_append {reader next : TypeReader} {x : List Token} (h : reader.run x = some next)
    (y : List Token) : reader.run (x ++ y) = next.run y := by
  induction x generalizing reader with
  | nil =>
    obtain rfl := Option.some.inj h
    rfl
  | cons t x ih =>
    obtain ⟨mid, hstep, hrest⟩ := Option.bind_eq_some_iff.mp h
    rw [List.cons_append, run_cons hstep, ih hrest]

end TypeReader

/-! ### What the grammar derives is read -/

/-- The head of a member is read. -/
theorem run_head (stack : List Frame) (before : List TypeTree)
    (done : List (MemberHead × TypeTree)) {t : Token} {head : MemberHead}
    (hk : key? t = some head.key) :
    TypeReader.run ⟨stack, before, .members done⟩
        (t :: optionalTokens head.isOptional ++ [.mark ':']) =
      some ⟨.member before done head :: stack, [], .operand⟩ := by
  have hkey : TypeReader.step ⟨stack, before, .members done⟩ t =
      some ⟨stack, before, .key done head.key⟩ := by
    rw [TypeReader.step, TypeReader.membersStep, hk, Option.map_some]
    rintro rfl
    simp [key?] at hk
  rw [List.cons_append, TypeReader.run_cons hkey]
  obtain ⟨key, isOptional⟩ := head
  cases isOptional <;> rfl

mutual
/-- An operand is read wherever it may stand. -/
theorem IsOperand.run : ∀ {ts : List Token} {type : TypeTree}, IsOperand ts type →
    ∀ (stack : List Frame) (before : List TypeTree),
      TypeReader.run ⟨stack, before, .operand⟩ ts = some ⟨stack, before, .after type⟩
  | _, _, .word h, stack, before => by
    rw [TypeReader.run, TypeReader.step, TypeReader.operandStep, h]
    rfl
  | _, _, .string value, stack, before => rfl
  | _, _, @IsOperand.negative text value h, stack, before => by
    have hsign : TypeReader.step ⟨stack, before, .operand⟩ (.mark '-') =
        some ⟨stack, before, .minus⟩ := rfl
    rw [TypeReader.run_cons hsign, TypeReader.run, TypeReader.step, h]
    rfl
  | _, _, .array h, stack, before => by
    rw [TypeReader.run_append (h.run stack before)]
    rfl
  | _, _, .group h, stack, before => by
    obtain ⟨more, last, hrun, rfl⟩ := h.exists_run (.group before :: stack) []
    have hopen : TypeReader.step ⟨stack, before, .operand⟩ (.mark '(') =
        some ⟨.group before :: stack, [], .operand⟩ := rfl
    rw [List.cons_append, TypeReader.run_cons hopen, TypeReader.run_append hrun]
    rfl
  | _, _, .record h, stack, before => by
    have hopen : TypeReader.step ⟨stack, before, .operand⟩ (.mark '\x7b') =
        some ⟨stack, before, .members []⟩ := rfl
    rw [List.cons_append, TypeReader.run_cons hopen, TypeReader.run_append (h.run stack before [])]
    rfl
/-- Alternatives are read after those before them. -/
theorem AreAlternatives.exists_run : ∀ {ts : List Token} {types : List TypeTree},
    AreAlternatives ts types → ∀ (stack : List Frame) (before : List TypeTree),
      ∃ more last, TypeReader.run ⟨stack, before, .operand⟩ ts =
        some ⟨stack, before ++ more, .after last⟩ ∧ more ++ [last] = types
  | _, _, @AreAlternatives.last ts type h, stack, before => by
    refine ⟨[], type, ?_, rfl⟩
    rw [h.run stack before, List.append_nil]
  | _, _, @AreAlternatives.more ts rest type types h hr, stack, before => by
    obtain ⟨more, last, hrun, rfl⟩ := hr.exists_run stack (before ++ [type])
    have hbar : TypeReader.step ⟨stack, before, .after type⟩ (.mark '|') =
        some ⟨stack, before ++ [type], .operand⟩ := rfl
    refine ⟨type :: more, last, ?_, rfl⟩
    rw [TypeReader.run_append (h.run stack before), TypeReader.run_cons hbar, hrun,
      List.append_assoc, List.singleton_append]
/-- Members are read after those before them. -/
theorem AreMembers.run : ∀ {ts : List Token} {members : List (MemberHead × TypeTree)},
    AreMembers ts members → ∀ (stack : List Frame) (before : List TypeTree)
      (done : List (MemberHead × TypeTree)),
      TypeReader.run ⟨stack, before, .members done⟩ ts =
        some ⟨stack, before, .members (done ++ members)⟩
  | _, _, .nil, stack, before, done => by
    rw [List.append_nil]
    rfl
  | _, _, @AreMembers.cons t head ts rest types members hk h hr, stack, before, done => by
    obtain ⟨more, last, hrun, rfl⟩ := h.exists_run (.member before done head :: stack) []
    have hend : TypeReader.step ⟨.member before done head :: stack, [] ++ more, .after last⟩
        (.mark ';') = some ⟨stack, before, .members (done ++ [(head, unionOf (more ++ [last]))])⟩ :=
      rfl
    have htokens : t :: optionalTokens head.isOptional ++ .mark ':' :: ts ++ .mark ';' :: rest =
        (t :: optionalTokens head.isOptional ++ [.mark ':']) ++ (ts ++ .mark ';' :: rest) := by
      simp
    rw [htokens, TypeReader.run_append (run_head stack before done hk),
      TypeReader.run_append hrun, TypeReader.run_cons hend, hr.run, List.append_assoc,
      List.singleton_append]
end

/-! ### Declarations -/

/-- The type of a declaration, from the tokens after its head. -/
def type? (ts : List Token) : Option TypeTree :=
  match TypeReader.run ⟨[], [], .operand⟩ ts with
  | some ⟨_, _, .ended type⟩ => some type
  | _ => none

/-- The declaration that tokens are. -/
def declared? : List Token → Option Declared
  | t :: .mark ':' :: rest =>
    (key? t).bind fun key => (type? rest).map (.property ⟨key, false⟩)
  | t :: .mark '?' :: .mark ':' :: rest =>
    (key? t).bind fun key => (type? rest).map (.property ⟨key, true⟩)
  | .word name :: .mark '=' :: rest => (type? rest).map (.named name)
  | _ => none

theorem type?_of_isType {ts : List Token} {type : TypeTree} (h : IsType ts type) :
    type? (ts ++ [.mark ';']) = some type := by
  obtain ⟨types, halternatives, rfl⟩ := h
  obtain ⟨more, last, hrun, rfl⟩ := halternatives.exists_run [] []
  rw [type?, TypeReader.run_append hrun]
  rfl

/-- A declaration is read as itself. -/
theorem declared?_of_declares {ts : List Token} {declared : Declared} (h : Declares ts declared) :
    declared? ts = some declared := by
  cases h with
  | @property t head ts type hk h =>
    have htype := type?_of_isType h
    obtain ⟨key, isOptional⟩ := head
    cases isOptional with
    | false =>
      show declared? (t :: .mark ':' :: (ts ++ [.mark ';'])) = _
      rw [declared?, hk, Option.bind_some, htype, Option.map_some]
    | true =>
      show declared? (t :: .mark '?' :: .mark ':' :: (ts ++ [.mark ';'])) = _
      rw [declared?, hk, Option.bind_some, htype, Option.map_some]
  | @named name ts type hn h =>
    have htype := type?_of_isType h
    show declared? (.word name :: .mark '=' :: (ts ++ [.mark ';'])) = _
    rw [declared?, htype, Option.map_some]

/-- Tokens are those of one declaration at most. -/
theorem declares_unique {ts : List Token} {declared other : Declared} (h : Declares ts declared)
    (ho : Declares ts other) : other = declared := by
  have hread := declared?_of_declares h
  rw [declared?_of_declares ho] at hread
  exact Option.some.inj hread

/-- A text that is a declaration is no other. -/
theorem isDeclaration_iff {text : String} {declared : Declared} (h : IsDeclaration text declared)
    (other : Declared) : IsDeclaration text other ↔ other = declared := by
  constructor
  · rintro ⟨ts, hscan, hdeclares⟩
    obtain ⟨ts', hscan', hdeclares'⟩ := h
    obtain rfl := Option.some.inj (hscan.symm.trans hscan')
    exact declares_unique hdeclares' hdeclares
  · rintro rfl
    exact h

end TypedClient.Script
