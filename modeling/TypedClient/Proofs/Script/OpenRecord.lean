import TypedClient.Proofs.Script.TypeReading

/-!
# Records with other keys

A name may be declared for a record that has, beside its properties, a type for the
values under all other keys. Each member ends in the semicolon after its type. As no type
goes on after a semicolon (`IsType.append_inj`), it is clear where a member ends, and a
text declares the members of one record at most (`IsOpenRecord.unique`).
-/

namespace TypedClient.Script

open TypedClient.Client

/-- What a record declares. -/
inductive Member where
  /-- A property with a type. -/
  | property (head : MemberHead) (type : TypeTree)
  /-- The type of the values under all other keys. -/
  | anyKey (type : TypeTree)

/-- Whether an object may do without what is declared, as it may for any other key. -/
def Member.isOptional : Member → Bool
  | .property head _ => head.isOptional
  | .anyKey _ => true

/-- The tokens of a member. -/
inductive IsMember : List Token → Member → Prop where
  /-- A declaration of a property. -/
  | property {ts : List Token} {head : MemberHead} {type : TypeTree}
    (h : Declares ts (.property head type)) : IsMember ts (.property head type)
  /-- A name for keys in brackets, which are strings, and a type. -/
  | anyKey {name : String} {ts : List Token} {type : TypeTree}
    (hn : isIdentifier name.toList = true) (h : IsType ts type) :
    IsMember (Token.mark '[' :: Token.word name :: Token.mark ':' :: Token.word "string" ::
      Token.mark ']' :: Token.mark ':' :: ts ++ [Token.mark ';']) (.anyKey type)

/-- Whether the tokens of a text are those of a name for a record with some members. -/
def IsOpenRecord (text name : String) (members : List Member) : Prop :=
  isIdentifier name.toList = true ∧ ∃ parts : List (List Token),
    scan text = some (Token.word name :: Token.mark '=' :: Token.mark '\x7b' :: parts.flatten ++
      [Token.mark '\x7d', Token.mark ';']) ∧
    List.Forall₂ IsMember parts members

/-! ### Where a type ends -/

/-- No type goes on after a semicolon. -/
theorem IsType.not_isType_append {ts : List Token} {type other : TypeTree} (h : IsType ts type)
    (more : List Token) : ¬ IsType (ts ++ Token.mark ';' :: more) other := by
  intro hother
  obtain ⟨types, halternatives, -⟩ := h
  obtain ⟨before, last, hrun, -⟩ := halternatives.exists_run [] []
  have hend : TypeReader.step ⟨[], [] ++ before, .after last⟩ (.mark ';') =
      some ⟨[], [], .ended (unionOf (before ++ [last]))⟩ := rfl
  have hnothing : TypeReader.run ⟨[], [], .ended (unionOf (before ++ [last]))⟩
      (more ++ [Token.mark ';']) = none := by
    cases more <;> rfl
  have hread := type?_of_isType hother
  rw [type?, List.append_assoc, TypeReader.run_append hrun, List.cons_append,
    TypeReader.run_cons hend, hnothing] at hread
  exact absurd hread (by simp)

/-- A type that another starts with is that type, if a semicolon ends both. -/
theorem IsType.eq_of_append {ts more rest rest' : List Token} {type type' : TypeTree}
    (h : IsType ts type) (h' : IsType (ts ++ more) type')
    (hmore : Token.mark ';' :: rest = more ++ Token.mark ';' :: rest') :
    type = type' ∧ rest = rest' := by
  cases more with
  | nil =>
    rw [List.append_nil] at h'
    have htype := (type?_of_isType h).symm.trans (type?_of_isType h')
    exact ⟨Option.some.inj htype, (List.cons.inj hmore).2⟩
  | cons t more =>
    obtain ⟨rfl, -⟩ := List.cons.inj hmore
    exact absurd h' (h.not_isType_append more)

/-- It is clear which type stands before the semicolon that ends it, and what follows. -/
theorem IsType.append_inj {ts ts' rest rest' : List Token} {type type' : TypeTree}
    (h : IsType ts type) (h' : IsType ts' type')
    (he : ts ++ Token.mark ';' :: rest = ts' ++ Token.mark ';' :: rest') :
    type = type' ∧ rest = rest' := by
  rcases List.append_eq_append_iff.mp he with ⟨more, rfl, hmore⟩ | ⟨more, rfl, hmore⟩
  · exact h.eq_of_append h' hmore
  · obtain ⟨htype, hrest⟩ := h'.eq_of_append h hmore
    exact ⟨htype.symm, hrest.symm⟩

/-! ### Where a member ends -/

/-- It is clear where the mark of a member and its colon end. -/
theorem optionalTokens_append_inj {isOptional isOptional' : Bool} {rest rest' : List Token}
    (h : optionalTokens isOptional ++ Token.mark ':' :: rest =
      optionalTokens isOptional' ++ Token.mark ':' :: rest') :
    isOptional = isOptional' ∧ rest = rest' := by
  cases isOptional <;> cases isOptional' <;> simp_all [optionalTokens]

/-- A property starts with its key, which is no mark. -/
theorem Declares.ne_mark {ts : List Token} {head : MemberHead} {type : TypeTree}
    (h : Declares ts (.property head type)) (c : Char) (rest rest' : List Token) :
    ts ++ rest ≠ Token.mark c :: rest' := by
  cases h with
  | property hk h =>
    intro he
    obtain ⟨rfl, -⟩ := List.cons.inj he
    exact absurd hk (by simp [key?])

/-- A member starts with a key or a bracket. -/
theorem IsMember.ne_close {ts : List Token} {member : Member} (h : IsMember ts member)
    (rest rest' : List Token) : ts ++ rest ≠ Token.mark '\x7d' :: rest' := by
  cases h with
  | property h => exact h.ne_mark '\x7d' rest rest'
  | anyKey hn h =>
    intro he
    exact absurd (List.cons.inj he).1 (by decide)

/-- It is clear which property is declared first, and what follows it. -/
theorem Declares.append_inj {ts ts' rest rest' : List Token} {head head' : MemberHead}
    {type type' : TypeTree} (h : Declares ts (.property head type))
    (h' : Declares ts' (.property head' type')) (he : ts ++ rest = ts' ++ rest') :
    (head = head' ∧ type = type') ∧ rest = rest' := by
  obtain ⟨key, isOptional⟩ := head
  obtain ⟨key', isOptional'⟩ := head'
  cases h with
  | @property t _ ts _ hk h =>
    cases h' with
    | @property t' _ ts' _ hk' h' =>
      have htokens : t = t' ∧
          optionalTokens isOptional ++ Token.mark ':' :: (ts ++ Token.mark ';' :: rest) =
            optionalTokens isOptional' ++ Token.mark ':' :: (ts' ++ Token.mark ';' :: rest') := by
        simpa using he
      obtain ⟨rfl, htokens⟩ := htokens
      obtain ⟨rfl, htypes⟩ := optionalTokens_append_inj htokens
      obtain ⟨rfl, hrest⟩ := h.append_inj h' htypes
      obtain rfl : key = key' := Option.some.inj (hk.symm.trans hk')
      exact ⟨⟨rfl, rfl⟩, hrest⟩

/-- It is clear which member comes first, and what follows it. -/
theorem IsMember.append_inj {ts ts' rest rest' : List Token} {member member' : Member}
    (h : IsMember ts member) (h' : IsMember ts' member') (he : ts ++ rest = ts' ++ rest') :
    member = member' ∧ rest = rest' := by
  cases h with
  | property h =>
    cases h' with
    | property h' =>
      obtain ⟨⟨rfl, rfl⟩, hrest⟩ := h.append_inj h' he
      exact ⟨rfl, hrest⟩
    | anyKey hn' h' => exact absurd he (h.ne_mark '[' _ _)
  | @anyKey name ts type hn h =>
    cases h' with
    | property h' => exact absurd he.symm (h'.ne_mark '[' _ _)
    | @anyKey name' ts' type' hn' h' =>
      have htokens : name = name' ∧
          ts ++ Token.mark ';' :: rest = ts' ++ Token.mark ';' :: rest' := by
        simpa using he
      obtain ⟨rfl, hrest⟩ := h.append_inj h' htokens.2
      exact ⟨rfl, hrest⟩

/-- It is clear which members stand before the brace that closes a record. -/
theorem members_unique {parts parts' : List (List Token)} {members members' : List Member}
    (h : List.Forall₂ IsMember parts members) (h' : List.Forall₂ IsMember parts' members')
    {rest rest' : List Token}
    (he : parts.flatten ++ Token.mark '\x7d' :: rest =
      parts'.flatten ++ Token.mark '\x7d' :: rest') : members = members' := by
  induction h generalizing parts' members' with
  | nil =>
    cases h' with
    | nil => rfl
    | cons hfirst hothers =>
      rw [List.flatten_cons, List.append_assoc] at he
      exact absurd he.symm (hfirst.ne_close _ _)
  | cons hfirst hothers ih =>
    rw [List.flatten_cons, List.append_assoc] at he
    cases h' with
    | nil => exact absurd he (hfirst.ne_close _ _)
    | cons hfirst' hothers' =>
      rw [List.flatten_cons, List.append_assoc] at he
      obtain ⟨rfl, hrest⟩ := hfirst.append_inj hfirst' he
      rw [ih hothers' hrest]

/-- A text declares the members of one record at most. -/
theorem IsOpenRecord.unique {text name name' : String} {members members' : List Member}
    (h : IsOpenRecord text name members) (h' : IsOpenRecord text name' members') :
    name' = name ∧ members' = members := by
  obtain ⟨-, parts, hscan, hmembers⟩ := h
  obtain ⟨-, parts', hscan', hmembers'⟩ := h'
  have htokens := Option.some.inj (hscan'.symm.trans hscan)
  have hall : name' = name ∧ parts'.flatten ++ [Token.mark '\x7d', Token.mark ';'] =
      parts.flatten ++ [Token.mark '\x7d', Token.mark ';'] := by
    simpa using htokens
  exact ⟨hall.1, members_unique hmembers' hmembers hall.2⟩

end TypedClient.Script
