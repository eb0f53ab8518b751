import TypedClient.Proofs.Script.Token

/-!
# Reading patterns and objects

The entries of a pattern or of an object stand between braces, with commas between
them; commas in inner brackets part no entries. An entry of an object defines a
property, and one of a pattern binds a local to the value of a property, save for
the last, which may bind one to an object of all others. In both a name alone stands
for a key and a local.
-/

namespace TypedClient.Script

open TypedClient.Client

/-- Whether a token is an opening bracket. -/
def Token.opens (t : Token) : Bool :=
  t == .mark '\x7b' || t == .mark '(' || t == .mark '['

/-- Whether a token is a closing bracket. -/
def Token.closes (t : Token) : Bool :=
  t == .mark '\x7d' || t == .mark ')' || t == .mark ']'

/-- The entries up to the brace that closes, and what follows it. `depth` is the number of inner
brackets that are open, and the tokens of the entry so far are given. -/
def entriesFrom : Nat → List Token → List Token → Option (List (List Token) × List Token)
  | _, _, [] => none
  | depth, soFar, t :: rest =>
    if t.opens then entriesFrom (depth + 1) (soFar ++ [t]) rest
    else
      match depth with
      | outer + 1 => entriesFrom (if t.closes then outer else outer + 1) (soFar ++ [t]) rest
      | 0 =>
        if t = .mark '\x7d' then some (if soFar = [] then [] else [soFar], rest)
        else if t.closes then none
        else if t = .mark ',' then
          (entriesFrom 0 [] rest).map fun (entries, more) => (soFar :: entries, more)
        else entriesFrom 0 (soFar ++ [t]) rest

/-- The property that an entry of an object defines: its key and the tokens of its value. -/
def property? : List Token → Option (String × List Token)
  | [.word name] => if isBinding name then some (name, [.word name]) else none
  | .word key :: .mark ':' :: value =>
    if isIdentifier key.toList ∧ value ≠ [] then some (key, value) else none
  | .string key :: .mark ':' :: value => if value ≠ [] then some (key, value) else none
  | _ => none

/-- The properties of an object that is given by its tokens. -/
def object? : List Token → Option (List (String × List Token))
  | .mark '\x7b' :: inner =>
    match entriesFrom 0 [] inner with
    | some (entries, []) => entries.mapM property?
    | _ => none
  | _ => none

/-- A pattern that takes an object apart. -/
structure Pattern where
  /-- The keys whose values are taken, each with the local that is bound to it. -/
  entries : List (String × String)
  /-- The local that is bound to an object of all other properties. -/
  rest : Option String
  deriving DecidableEq, Repr

/-- The key and the local of an entry of a pattern. What stands for a missing value is skipped. -/
def taken? : List Token → Option (String × String)
  | .word name :: .mark '=' :: fallback =>
    if isBinding name ∧ fallback ≠ [] then some (name, name) else none
  | entry =>
    match property? entry with
    | some (key, [.word name]) => if isBinding name then some (key, name) else none
    | _ => none

/-- The local that is bound to an object of all other properties. -/
def rest? : List Token → Option String
  | [.mark '.', .mark '.', .mark '.', .word name] => if isBinding name then some name else none
  | _ => none

/-- The pattern that has some entries. -/
def pattern? (entries : List (List Token)) : Option Pattern :=
  match entries.getLast?.bind rest? with
  | some name => (entries.dropLast.mapM taken?).map (⟨·, some name⟩)
  | none => (entries.mapM taken?).map (⟨·, none⟩)

/-- What follows the first brace that opens right after a parenthesis. -/
def afterOpening : List Token → Option (List Token)
  | [] => none
  | .mark '(' :: .mark '\x7b' :: rest => some rest
  | _ :: rest => afterOpening rest

/-- A function that takes an object apart and then makes a call with an object. -/
structure Caller where
  /-- The pattern for what the function is given. -/
  pattern : Pattern
  /-- The properties of the object that the call is given. -/
  call : List (String × List Token)
  deriving DecidableEq, Repr

/-- Reads a function of this kind. -/
def caller? (script : String) : Option Caller :=
  (tokens script).bind fun ts =>
    (afterOpening ts).bind fun ts =>
      (entriesFrom 0 [] ts).bind fun (taken, ts) =>
        (afterOpening ts).bind fun ts =>
          (entriesFrom 0 [] ts).bind fun (sent, _) =>
            (pattern? taken).bind fun pattern => (sent.mapM property?).map (⟨pattern, ·⟩)

/-! ### Entries -/

/-- Whether a token neither ends an entry nor opens or closes a bracket. -/
def Token.isPlain (t : Token) : Bool :=
  !t.opens && !t.closes && t != .mark ','

@[simp] theorem Token.isPlain_word (text : String) : (Token.word text).isPlain = true := rfl

@[simp] theorem Token.isPlain_string (value : String) : (Token.string value).isPlain = true := rfl

@[simp] theorem Token.isPlain_template (items : List TemplateItem) :
    (Token.template items).isPlain = true := rfl

@[simp] theorem Token.isPlain_colon : (Token.mark ':').isPlain = true := by decide

theorem Token.not_bracket_of_isPlain {t : Token} (h : t.isPlain = true) :
    t.opens = false ∧ t.closes = false := by
  simp only [isPlain, Bool.and_eq_true, Bool.not_eq_true'] at h
  exact h.1

/-- Whether a text of tokens stands in an entry as a whole. -/
def IsEntry (entry : List Token) : Prop :=
  entry ≠ [] ∧ ∀ soFar rest,
    entriesFrom 0 soFar (entry ++ rest) = entriesFrom 0 (soFar ++ entry) rest

theorem entriesFrom_open {t : Token} (h : t.opens = true) (depth : Nat) (soFar rest : List Token) :
    entriesFrom depth soFar (t :: rest) = entriesFrom (depth + 1) (soFar ++ [t]) rest := by
  cases depth with
  | zero => rw [entriesFrom, if_pos h]
  | succ outer => rw [entriesFrom, if_pos h]

theorem entriesFrom_inner {t : Token} (ho : t.opens = false) (hc : t.closes = false) (depth : Nat)
    (soFar rest : List Token) :
    entriesFrom (depth + 1) soFar (t :: rest) = entriesFrom (depth + 1) (soFar ++ [t]) rest := by
  rw [entriesFrom, if_neg (by simp [ho]), if_neg (by simp [hc])]

theorem entriesFrom_close {t : Token} (ho : t.opens = false) (hc : t.closes = true) (depth : Nat)
    (soFar rest : List Token) :
    entriesFrom (depth + 1) soFar (t :: rest) = entriesFrom depth (soFar ++ [t]) rest := by
  rw [entriesFrom, if_neg (by simp [ho]), if_pos hc]

theorem entriesFrom_plain {t : Token} (h : t.isPlain = true) (soFar rest : List Token) :
    entriesFrom 0 soFar (t :: rest) = entriesFrom 0 (soFar ++ [t]) rest := by
  simp only [Token.isPlain, Bool.and_eq_true, Bool.not_eq_true', bne_iff_ne] at h
  obtain ⟨⟨ho, hc⟩, hcomma⟩ := h
  have hbrace : t ≠ .mark '\x7d' := by
    rintro rfl
    exact absurd hc (by decide)
  rw [entriesFrom, if_neg (by simp [ho]), if_neg hbrace, if_neg (by simp [hc]), if_neg hcomma]

/-- Tokens without commas and brackets are an entry. -/
theorem isEntry_of_isPlain {entry : List Token} (hne : entry ≠ [])
    (h : ∀ t ∈ entry, t.isPlain = true) : IsEntry entry := by
  refine ⟨hne, ?_⟩
  clear hne
  induction entry with
  | nil => simp
  | cons t entry ih =>
    intro soFar rest
    rw [List.cons_append, entriesFrom_plain (h t List.mem_cons_self),
      ih (fun u hu => h u (List.mem_cons_of_mem t hu)), List.append_assoc, List.singleton_append]

/-- The tokens of an object whose values have no brackets in them belong to one entry. -/
theorem isEntry_object {before inner : List Token} (hb : ∀ t ∈ before, t.isPlain = true)
    (hi : ∀ t ∈ inner, t.opens = false ∧ t.closes = false) :
    IsEntry (before ++ .mark '\x7b' :: (inner ++ [.mark '\x7d'])) := by
  have hinner (soFar rest : List Token) :
      entriesFrom 1 soFar (inner ++ rest) = entriesFrom 1 (soFar ++ inner) rest := by
    induction inner generalizing soFar with
    | nil => simp
    | cons t inner ih =>
      obtain ⟨ho, hc⟩ := hi t List.mem_cons_self
      rw [List.cons_append, entriesFrom_inner ho hc,
        ih fun u hu => hi u (List.mem_cons_of_mem t hu), List.append_assoc, List.singleton_append]
  refine ⟨by simp, fun soFar rest => ?_⟩
  rw [List.append_assoc]
  have hbefore (after : List Token) :
      entriesFrom 0 soFar (before ++ after) = entriesFrom 0 (soFar ++ before) after := by
    cases hl : before with
    | nil => simp
    | cons t more =>
      rw [hl] at hb
      exact (isEntry_of_isPlain (List.cons_ne_nil t more) hb).2 soFar after
  rw [hbefore, List.cons_append, entriesFrom_open (by decide), Nat.zero_add,
    List.append_assoc inner, hinner, List.singleton_append,
    entriesFrom_close (by decide) (by decide)]
  simp

/-- Entries with commas between them are read back. -/
theorem entriesFrom_intercalate {entries : List (List Token)} (h : ∀ e ∈ entries, IsEntry e)
    (rest : List Token) :
    entriesFrom 0 [] ([.mark ','].intercalate entries ++ .mark '\x7d' :: rest) =
      some (entries, rest) := by
  have hclose (soFar : List Token) : entriesFrom 0 soFar (.mark '\x7d' :: rest) =
      some (if soFar = [] then [] else [soFar], rest) := by
    rw [entriesFrom, if_neg (by decide), if_pos rfl]
  induction entries with
  | nil => rw [List.intercalate_nil, List.nil_append, hclose, if_pos rfl]
  | cons entry others ih =>
    obtain ⟨hne, hentry⟩ := h entry List.mem_cons_self
    cases others with
    | nil => rw [List.intercalate_singleton, hentry, List.nil_append, hclose, if_neg hne]
    | cons next others =>
      rw [List.intercalate_cons_cons, List.append_assoc, List.append_assoc, hentry,
        List.nil_append, List.singleton_append, entriesFrom, if_neg (by decide),
        if_neg (by decide), if_neg (by decide), if_pos rfl,
        ih fun e he => h e (List.mem_cons_of_mem entry he)]
      rfl

/-- What stands between entries and in them is a comma or belongs to one of them. -/
theorem mem_intercalate_comma {entries : List (List Token)} {t : Token}
    (h : t ∈ [Token.mark ','].intercalate entries) : t = .mark ',' ∨ ∃ e ∈ entries, t ∈ e := by
  induction entries with
  | nil => simp at h
  | cons entry others ih =>
    cases others with
    | nil =>
      rw [List.intercalate_singleton] at h
      exact Or.inr ⟨entry, List.mem_cons_self, h⟩
    | cons next others =>
      rw [List.intercalate_cons_cons, List.mem_append, List.mem_append, List.mem_singleton] at h
      rcases h with (h | h) | h
      · exact Or.inr ⟨entry, List.mem_cons_self, h⟩
      · exact Or.inl h
      · refine (ih h).imp_right ?_
        rintro ⟨e, he, ht⟩
        exact ⟨e, List.mem_cons_of_mem entry he, ht⟩

/-- The first brace right after a parenthesis comes after what has no parenthesis. -/
theorem afterOpening_append {front : List Token} (h : Token.mark '(' ∉ front)
    (rest : List Token) :
    afterOpening (front ++ .mark '(' :: .mark '\x7b' :: rest) = some rest := by
  induction front with
  | nil => rfl
  | cons t front ih =>
    rw [List.mem_cons, not_or] at h
    rw [List.cons_append, afterOpening, ih h.2]
    intro more ht
    exact absurd ht.symm h.1

/-- Entries that are read one by one are read together. -/
theorem mapM_map_eq_some {α β γ : Type} {read : α → Option β} {entry : γ → α} {result : γ → β}
    {l : List γ} (h : ∀ c ∈ l, read (entry c) = some (result c)) :
    (l.map entry).mapM read = some (l.map result) := by
  induction l with
  | nil => rfl
  | cons c l ih =>
    rw [List.map_cons, List.mapM_cons, h c List.mem_cons_self,
      ih fun d hd => h d (List.mem_cons_of_mem c hd)]
    rfl

end TypedClient.Script
