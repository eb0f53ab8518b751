import Mathlib
import TypedClient.Json.Basic
import TypedClient.Json.Token

/-!
# Syntax trees of JSON texts

A tree has everything that stands in a JSON value, the members of one name one by one
and what no reader could keep included, and nothing of the places where it stands.
`Tree.symbols` writes a tree as a row of symbols, and the symbols of a text are those of
its tokens. A row of symbols starts with one tree at most (`symbols_append_inj`), so
that a text is written as one tree (`WrittenAs`).
-/

namespace TypedClient.Json

/-- A value that is neither an array nor an object. A number or a string may be one that cannot be
kept. -/
inductive Scalar where
  /-- The word `null`. -/
  | null
  /-- The word `true` or `false`. -/
  | bool (value : Bool)
  /-- A number. -/
  | number (value : Option Number)
  /-- A string. -/
  | string (value : Option String)
  deriving DecidableEq

/-- What a token is, wherever it stands. -/
inductive Symbol where
  | arrayOpen | arrayClose | objectOpen | objectClose | comma | colon
  /-- A value of one token. -/
  | scalar (value : Scalar)
  /-- No part of any value. -/
  | junk
  deriving DecidableEq

/-- The symbol of a token. -/
def Lexeme.symbol : Lexeme → Symbol
  | .arrayOpen => .arrayOpen
  | .arrayClose => .arrayClose
  | .objectOpen => .objectOpen
  | .objectClose => .objectClose
  | .comma => .comma
  | .colon => .colon
  | .null => .scalar .null
  | .bool value => .scalar (.bool value)
  | .number value => .scalar (.number value.toOption)
  | .string value => .scalar (.string value.toOption)
  | .broken _ _ => .junk
  | .brokenString _ _ => .junk
  | .stray => .junk

/-- The symbols of tokens. -/
def symbols (ts : List Token) : List Symbol :=
  ts.map fun token => token.lexeme.symbol

@[simp] theorem symbols_nil : symbols [] = [] := rfl

@[simp] theorem symbols_cons (token : Token) (rest : List Token) :
    symbols (token :: rest) = token.lexeme.symbol :: symbols rest := rfl

/-- The syntax tree of a value. -/
inductive Tree where
  /-- A value of one symbol. -/
  | scalar (value : Scalar)
  /-- An array. -/
  | array (items : List Tree)
  /-- An object. The name of a member may be one that cannot be kept. -/
  | object (members : List (Option String × Tree))

mutual
/-- The symbols that a tree is written as. -/
def Tree.symbols : Tree → List Symbol
  | .scalar value => [.scalar value]
  | .array items => .arrayOpen :: itemSymbols true items
  | .object members => .objectOpen :: memberSymbols true members
/-- The symbols of items up to the bracket that ends the array, with a comma in front of each that is
not the first. -/
def itemSymbols (first : Bool) : List Tree → List Symbol
  | [] => [.arrayClose]
  | item :: rest =>
    (if first then [] else [.comma]) ++ (item.symbols ++ itemSymbols false rest)
/-- The symbols of members up to the brace that ends the object, with a comma in front of each that is
not the first. -/
def memberSymbols (first : Bool) : List (Option String × Tree) → List Symbol
  | [] => [.objectClose]
  | (name, value) :: rest =>
    (if first then [] else [.comma]) ++
      .scalar (.string name) :: .colon :: (value.symbols ++ memberSymbols false rest)
end

/-- A text is written as a tree: its symbols start with those of the tree. -/
def WrittenAs (bytes : List UInt8) (tree : Tree) : Prop :=
  ∃ rest, symbols (tokens bytes) = tree.symbols ++ rest

/-! ### One tree at most -/

/-- A tree starts with a symbol that can start a value. -/
theorem Tree.head_symbols (tree : Tree) :
    ∃ first rest, tree.symbols = first :: rest ∧ first ≠ .arrayClose := by
  cases tree with
  | scalar value => exact ⟨_, _, rfl, by simp⟩
  | array items => exact ⟨_, _, by rw [Tree.symbols], by simp⟩
  | object members => exact ⟨_, _, by rw [Tree.symbols], by simp⟩

mutual
/-- Symbols start with one tree at most. -/
theorem Tree.symbols_append_inj : (tree tree' : Tree) → {rest rest' : List Symbol} →
    tree.symbols ++ rest = tree'.symbols ++ rest' → tree = tree' ∧ rest = rest'
  | .scalar value, tree', rest, rest', h => by
    cases tree' with
    | scalar value' =>
      simp only [Tree.symbols, List.cons_append, List.nil_append, List.cons.injEq,
        Symbol.scalar.injEq] at h
      exact ⟨by rw [h.1], h.2⟩
    | array items => simp [Tree.symbols] at h
    | object members => simp [Tree.symbols] at h
  | .array items, tree', rest, rest', h => by
    cases tree' with
    | array items' =>
      simp only [Tree.symbols, List.cons_append, List.cons.injEq, true_and] at h
      obtain ⟨rfl, rfl⟩ := itemSymbols_append_inj items items' h
      exact ⟨rfl, rfl⟩
    | scalar value => simp [Tree.symbols] at h
    | object members => simp [Tree.symbols] at h
  | .object members, tree', rest, rest', h => by
    cases tree' with
    | object members' =>
      simp only [Tree.symbols, List.cons_append, List.cons.injEq, true_and] at h
      obtain ⟨rfl, rfl⟩ := memberSymbols_append_inj members members' h
      exact ⟨rfl, rfl⟩
    | scalar value => simp [Tree.symbols] at h
    | array items => simp [Tree.symbols] at h
theorem itemSymbols_append_inj : (items items' : List Tree) → {first : Bool} →
    {rest rest' : List Symbol} → itemSymbols first items ++ rest = itemSymbols first items' ++ rest' →
    items = items' ∧ rest = rest'
  | [], [], first, rest, rest', h => by
    simp only [itemSymbols, List.cons_append, List.nil_append, List.cons.injEq, true_and] at h
    exact ⟨rfl, h⟩
  | [], item' :: others', first, rest, rest', h => by
    obtain ⟨start, more, hstart, hne⟩ := item'.head_symbols
    cases first <;> simp [itemSymbols, hstart, Ne.symm hne] at h
  | item :: others, [], first, rest, rest', h => by
    obtain ⟨start, more, hstart, hne⟩ := item.head_symbols
    cases first <;> simp [itemSymbols, hstart, hne] at h
  | item :: others, item' :: others', first, rest, rest', h => by
    simp only [itemSymbols, List.append_assoc, List.append_cancel_left_eq] at h
    obtain ⟨hitem, hrest⟩ := Tree.symbols_append_inj item item' h
    obtain ⟨hothers, hrest⟩ := itemSymbols_append_inj others others' hrest
    exact ⟨by rw [hitem, hothers], hrest⟩
theorem memberSymbols_append_inj : (members members' : List (Option String × Tree)) →
    {first : Bool} → {rest rest' : List Symbol} →
    memberSymbols first members ++ rest = memberSymbols first members' ++ rest' →
    members = members' ∧ rest = rest'
  | [], [], first, rest, rest', h => by
    simp only [memberSymbols, List.cons_append, List.nil_append, List.cons.injEq, true_and] at h
    exact ⟨rfl, h⟩
  | [], (name', value') :: others', first, rest, rest', h => by
    cases first <;> simp [memberSymbols] at h
  | (name, value) :: others, [], first, rest, rest', h => by
    cases first <;> simp [memberSymbols] at h
  | (name, value) :: others, (name', value') :: others', first, rest, rest', h => by
    simp only [memberSymbols, List.append_assoc, List.append_cancel_left_eq, List.cons_append,
      List.cons.injEq, Symbol.scalar.injEq, Scalar.string.injEq, true_and] at h
    obtain ⟨hname, h⟩ := h
    obtain ⟨hvalue, hrest⟩ := Tree.symbols_append_inj value value' h
    obtain ⟨hothers, hrest⟩ := memberSymbols_append_inj others others' hrest
    exact ⟨by rw [hname, hvalue, hothers], hrest⟩
end

/-- A text is written as one tree at most. -/
theorem WrittenAs.unique {bytes : List UInt8} {tree tree' : Tree} (h : WrittenAs bytes tree)
    (h' : WrittenAs bytes tree') : tree = tree' := by
  obtain ⟨rest, hrest⟩ := h
  obtain ⟨rest', hrest'⟩ := h'
  exact (Tree.symbols_append_inj tree tree' (hrest.symm.trans hrest')).1

end TypedClient.Json
