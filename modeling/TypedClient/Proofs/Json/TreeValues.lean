import TypedClient.Json.Read
import TypedClient.Json.Skip
import TypedClient.Proofs.Json.Tree

/-!
# Readers of any value read trees

`Tree.value?` is the value of a tree: none if something in it cannot be kept. `readAny` reads
a tree and gives its value, and `skip` passes over a tree whether it has one or not. Both are
runs over tokens with a stack of what is open; each lemma says what a run reads from a
state on up to the end of what is innermost, and in which state it goes on.
-/

namespace TypedClient.Json

/-- The value of a scalar, if it can be kept. -/
def Scalar.value? : Scalar → Option Json
  | .null => some .null
  | .bool value => some (.bool value)
  | .number value => value.map .number
  | .string value => value.map .string

mutual
/-- The value of a tree, if all in it can be kept. -/
def Tree.value? : Tree → Option Json
  | .scalar value => value.value?
  | .array items => (itemValues items).map .array
  | .object members => (memberValues [] members).map .object
/-- The values of items. -/
def itemValues : List Tree → Option (List Json)
  | [] => some []
  | item :: rest => item.value?.bind fun value => (itemValues rest).map (value :: ·)
/-- The members that there are after those read before and some more. -/
def memberValues (read : List (String × Json)) :
    List (Option String × Tree) → Option (List (String × Json))
  | [] => some read
  | (name, item) :: rest =>
    name.bind fun name => item.value?.bind fun value => memberValues (insert name value read) rest
end

/-! ### Runs -/

section Resume

variable {σ α ε : Type} (step : σ → Token → Outcome σ α ε) (atEnd : σ → ε)

/-- What a run comes to after a step. -/
def resume : Outcome σ α ε → List Token → Except ε (α × List Token)
  | .done result, ts => .ok (result, ts)
  | .more state, ts => consume step atEnd state ts
  | .failed fault, _ => .error fault

theorem consume_cons (state : σ) (token : Token) (ts : List Token) :
    consume step atEnd state (token :: ts) = resume step atEnd (step state token) ts := by
  rw [consume]
  cases step state token <;> rfl

end Resume

namespace Read

/-- Whether a run comes to a result after a step. -/
def Ends (place : Place) (outcome : Outcome ReadState Json Fault) (ts : List Token)
    (result : Json × List Token) : Prop :=
  resume (step place) (atEnd place) outcome ts = .ok result

variable {place : Place} {result : Json × List Token}

theorem ends_failed_iff {fault : Fault} {ts : List Token} : Ends place (.failed fault) ts result ↔ False := by
  simp [Ends, resume]

/-- A run that goes on takes another token. -/
theorem Ends.exists_cons {state : ReadState} {ts : List Token} (h : Ends place (.more state) ts result) :
    ∃ next rest, ts = next :: rest ∧ Ends place (step place state next) rest result := by
  cases ts with
  | nil => simp [Ends, resume, consume] at h
  | cons next rest =>
    rw [Ends, resume, consume_cons] at h
    exact ⟨next, rest, rfl, h⟩

mutual
/-- Where a value is expected a tree with a value is read. -/
theorem exists_of_valueStep {stack : List Frame} {token : Token} {ts : List Token}
    (h : Ends place (valueStep place stack token) ts result) :
    ∃ (tree : Tree) (value : Json) (rest : List Token),
      token.lexeme.symbol :: symbols ts = tree.symbols ++ symbols rest ∧
      rest.length ≤ ts.length ∧ tree.value? = some value ∧
      Ends place (completed value stack) rest result := by
  have hscalar : ∀ (scalar : Scalar) (value : Json), token.lexeme.symbol = .scalar scalar →
      scalar.value? = some value → Ends place (completed value stack) ts result →
      ∃ (tree : Tree) (value : Json) (rest : List Token),
        token.lexeme.symbol :: symbols ts = tree.symbols ++ symbols rest ∧
        rest.length ≤ ts.length ∧ tree.value? = some value ∧
        Ends place (completed value stack) rest result := by
    intro scalar value hsymbol hvalue hends
    exact ⟨.scalar scalar, value, ts, by rw [hsymbol]; rfl, le_rfl, hvalue, hends⟩
  simp only [valueStep] at h
  split at h
  · next hl => exact hscalar .null .null (by rw [hl]; rfl) rfl h
  · next b hl => exact hscalar (.bool b) (.bool b) (by rw [hl]; rfl) rfl h
  · next n hl => exact hscalar (.number (some n)) (.number n) (by rw [hl]; rfl) rfl h
  · exact (ends_failed_iff.mp h).elim
  · next text hl => exact hscalar (.string (some text)) (.string text) (by rw [hl]; rfl) rfl h
  · exact (ends_failed_iff.mp h).elim
  · exact (ends_failed_iff.mp h).elim
  · exact (ends_failed_iff.mp h).elim
  · next hl =>
    split at h
    · exact (ends_failed_iff.mp h).elim
    · obtain ⟨next, more, rfl, hnext⟩ := h.exists_cons
      simp only [step] at hnext
      split at hnext
      · next hclose =>
        refine ⟨.array [], .array [], more, ?_, by simp, rfl, hnext⟩
        rw [hl, symbols_cons, hclose]
        rfl
      · obtain ⟨item, value, after, hitem, hlength, hvalue, hends⟩ := exists_of_valueStep hnext
        obtain ⟨items, values, rest, hitems, hshorter, hvalues, hends⟩ :=
          exists_of_separator_array hends
        refine ⟨.array (item :: items), .array (value :: values), rest, ?_, ?_, ?_, hends⟩
        · rw [hl, symbols_cons, hitem, hitems]
          simp [Lexeme.symbol, Tree.symbols, itemSymbols]
        · rw [List.length_cons]
          omega
        · simp [Tree.value?, itemValues, hvalue, hvalues]
  · next hl =>
    split at h
    · exact (ends_failed_iff.mp h).elim
    · obtain ⟨next, more, rfl, hnext⟩ := h.exists_cons
      simp only [step] at hnext
      split at hnext
      · next hclose =>
        refine ⟨.object [], .object [], more, ?_, by simp, rfl, hnext⟩
        rw [hl, symbols_cons, hclose]
        rfl
      · obtain ⟨member, members, values, rest, hmembers, hshorter, hvalues, hends⟩ :=
          exists_of_nameStep hnext
        refine ⟨.object (member :: members), .object values, rest, ?_, ?_, ?_, hends⟩
        · rw [hl, symbols_cons, hmembers]
          rfl
        · rw [List.length_cons]
          omega
        · rw [Tree.value?, hvalues]
          rfl
  · exact (ends_failed_iff.mp h).elim
termination_by ts.length
decreasing_by
  all_goals
    subst_vars
    simp only [List.length_cons]
    omega
/-- Where an array goes on the rest of its items is read. -/
theorem exists_of_separator_array {outer : List Frame} {items : List Json} {ts : List Token}
    (h : Ends place (.more (.separator, .array items :: outer)) ts result) :
    ∃ (trees : List Tree) (values : List Json) (rest : List Token),
      symbols ts = itemSymbols false trees ++ symbols rest ∧
      rest.length < ts.length ∧ itemValues trees = some values ∧
      Ends place (completed (.array (items.reverse ++ values)) outer) rest result := by
  obtain ⟨next, more, rfl, hnext⟩ := h.exists_cons
  simp only [step, separatorStep] at hnext
  cases hl : next.lexeme with
  | comma =>
    simp only [hl] at hnext
    obtain ⟨first, after, rfl, hfirst⟩ := hnext.exists_cons
    simp only [step] at hfirst
    split at hfirst
    · exact (ends_failed_iff.mp hfirst).elim
    · obtain ⟨item, value, behind, hitem, hlength, hvalue, hends⟩ := exists_of_valueStep hfirst
      obtain ⟨trees, values, rest, htrees, hshorter, hvalues, hends⟩ :=
        exists_of_separator_array hends
      refine ⟨item :: trees, value :: values, rest, ?_, ?_, ?_, ?_⟩
      · rw [symbols_cons, hl, symbols_cons, hitem, htrees]
        simp [Lexeme.symbol, itemSymbols]
      · rw [List.length_cons, List.length_cons]
        omega
      · simp [itemValues, hvalue, hvalues]
      · rwa [List.reverse_cons, List.append_assoc] at hends
  | arrayClose =>
    simp only [hl] at hnext
    refine ⟨[], [], more, ?_, by simp, rfl, ?_⟩
    · rw [symbols_cons, hl]
      rfl
    · rwa [List.append_nil]
  | _ =>
    simp only [hl] at hnext
    exact (ends_failed_iff.mp hnext).elim
termination_by ts.length
decreasing_by
  all_goals
    subst_vars
    simp only [List.length_cons]
    omega
/-- Where the name of a member is expected a member is read, and the rest of them. -/
theorem exists_of_nameStep {outer : List Frame} {members : List (String × Json)} {old : String}
    {token : Token} {ts : List Token}
    (h : Ends place (nameStep place (.object members old :: outer) token) ts result) :
    ∃ (member : Option String × Tree) (trees : List (Option String × Tree))
      (values : List (String × Json)) (rest : List Token),
      token.lexeme.symbol :: symbols ts = memberSymbols true (member :: trees) ++ symbols rest ∧
      rest.length < ts.length ∧ memberValues members (member :: trees) = some values ∧
      Ends place (completed (.object values) outer) rest result := by
  simp only [nameStep] at h
  cases hl : token.lexeme with
  | string kept =>
    cases kept with
    | error e =>
      simp only [hl] at h
      exact (ends_failed_iff.mp h).elim
    | ok name =>
      simp only [hl] at h
      obtain ⟨colon, more, rfl, hcolon⟩ := h.exists_cons
      simp only [step] at hcolon
      split at hcolon
      · next hc =>
        obtain ⟨first, after, rfl, hfirst⟩ := hcolon.exists_cons
        simp only [step] at hfirst
        obtain ⟨member, value, behind, hmember, hlength, hvalue, hends⟩ :=
          exists_of_valueStep hfirst
        obtain ⟨trees, values, rest, htrees, hshorter, hvalues, hends⟩ :=
          exists_of_separator_object hends
        refine ⟨(some name, member), trees, values, rest, ?_, ?_, ?_, hends⟩
        · rw [symbols_cons, hc, symbols_cons, hmember, htrees]
          simp [Lexeme.symbol, Except.toOption, memberSymbols]
        · rw [List.length_cons, List.length_cons]
          omega
        · simp [memberValues, hvalue, hvalues]
      · exact (ends_failed_iff.mp hcolon).elim
  | _ =>
    simp only [hl] at h
    exact (ends_failed_iff.mp h).elim
termination_by ts.length
decreasing_by
  all_goals
    subst_vars
    simp only [List.length_cons]
    omega
/-- Where an object goes on the rest of its members is read. -/
theorem exists_of_separator_object {outer : List Frame} {members : List (String × Json)}
    {old : String} {ts : List Token}
    (h : Ends place (.more (.separator, .object members old :: outer)) ts result) :
    ∃ (trees : List (Option String × Tree)) (values : List (String × Json)) (rest : List Token),
      symbols ts = memberSymbols false trees ++ symbols rest ∧
      rest.length < ts.length ∧ memberValues members trees = some values ∧
      Ends place (completed (.object values) outer) rest result := by
  obtain ⟨next, more, rfl, hnext⟩ := h.exists_cons
  simp only [step, separatorStep] at hnext
  cases hl : next.lexeme with
  | comma =>
    simp only [hl] at hnext
    obtain ⟨first, after, rfl, hfirst⟩ := hnext.exists_cons
    simp only [step] at hfirst
    split at hfirst
    · exact (ends_failed_iff.mp hfirst).elim
    · obtain ⟨member, trees, values, rest, htrees, hshorter, hvalues, hends⟩ :=
        exists_of_nameStep hfirst
      refine ⟨member :: trees, values, rest, ?_, ?_, hvalues, hends⟩
      · rw [symbols_cons, hl, symbols_cons, htrees]
        simp [Lexeme.symbol, memberSymbols]
      · rw [List.length_cons, List.length_cons]
        omega
  | objectClose =>
    simp only [hl] at hnext
    refine ⟨[], members, more, ?_, by simp, rfl, hnext⟩
    rw [symbols_cons, hl]
    rfl
  | _ =>
    simp only [hl] at hnext
    exact (ends_failed_iff.mp hnext).elim
termination_by ts.length
decreasing_by
  all_goals
    subst_vars
    simp only [List.length_cons]
    omega
end

end Read

/-! ### Passing over -/

namespace Skip

/-- Whether a run that passes over something comes to its end after a step. -/
def Ends (textEnd : Nat) (outcome : Outcome SkipState Unit (Problem × Nat)) (ts : List Token)
    (rest : List Token) : Prop :=
  resume step (atEnd textEnd) outcome ts = .ok ((), rest)

variable {textEnd : Nat} {last : List Token}

theorem ends_failed_iff {fault : Problem × Nat} {ts : List Token} :
    Ends textEnd (.failed fault) ts last ↔ False := by
  simp [Ends, resume]

/-- A run that goes on takes another token. -/
theorem Ends.exists_cons {state : SkipState} {ts : List Token}
    (h : Ends textEnd (.more state) ts last) :
    ∃ next rest, ts = next :: rest ∧ Ends textEnd (step state next) rest last := by
  cases ts with
  | nil => simp [Ends, resume, consume] at h
  | cons next rest =>
    rw [Ends, resume, consume_cons] at h
    exact ⟨next, rest, rfl, h⟩

mutual
/-- Where a value is expected a tree is passed over, unless an array ends that was just opened. -/
theorem exists_of_valueStep {fresh : Bool} {stack : List Bracket} {token : Token} {ts : List Token}
    (hopen : fresh = true → token.lexeme ≠ .arrayClose)
    (h : Ends textEnd (valueStep fresh stack token) ts last) :
    ∃ (tree : Tree) (rest : List Token),
      token.lexeme.symbol :: symbols ts = tree.symbols ++ symbols rest ∧
      rest.length ≤ ts.length ∧ Ends textEnd (completed stack) rest last := by
  cases hl : token.lexeme with
  | null | bool b | number kept | string kept =>
    simp only [valueStep, hl] at h
    exact ⟨.scalar _, ts, rfl, le_rfl, h⟩
  | arrayOpen =>
    simp only [valueStep, hl] at h
    obtain ⟨next, more, rfl, hnext⟩ := h.exists_cons
    simp only [step] at hnext
    by_cases hclose : next.lexeme = .arrayClose
    · simp only [valueStep, hclose] at hnext
      refine ⟨.array [], more, ?_, by simp, hnext⟩
      rw [symbols_cons, hclose]
      rfl
    · obtain ⟨item, after, hitem, hlength, hends⟩ := exists_of_valueStep (fun _ => hclose) hnext
      obtain ⟨items, rest, hitems, hshorter, hends⟩ := exists_of_separator_array hends
      refine ⟨.array (item :: items), rest, ?_, ?_, hends⟩
      · rw [symbols_cons, hitem, hitems]
        simp [Lexeme.symbol, Tree.symbols, itemSymbols]
      · rw [List.length_cons]
        omega
  | objectOpen =>
    simp only [valueStep, hl] at h
    obtain ⟨next, more, rfl, hnext⟩ := h.exists_cons
    simp only [step] at hnext
    by_cases hclose : next.lexeme = .objectClose
    · simp only [nameStep, hclose] at hnext
      refine ⟨.object [], more, ?_, by simp, hnext⟩
      rw [symbols_cons, hclose]
      rfl
    · obtain ⟨member, members, rest, hmembers, hshorter, hends⟩ :=
        exists_of_nameStep (fun _ => hclose) hnext
      refine ⟨.object (member :: members), rest, ?_, ?_, hends⟩
      · rw [symbols_cons, hmembers]
        rfl
      · rw [List.length_cons]
        omega
  | arrayClose =>
    cases fresh with
    | true => exact absurd hl (hopen rfl)
    | false =>
      simp only [valueStep, hl] at h
      exact (ends_failed_iff.mp h).elim
  | _ =>
    simp only [valueStep, hl] at h
    exact (ends_failed_iff.mp h).elim
termination_by ts.length
decreasing_by
  all_goals
    subst_vars
    simp only [List.length_cons]
    omega
/-- Where an array goes on the rest of its items is passed over. -/
theorem exists_of_separator_array {outer : List Bracket} {ts : List Token}
    (h : Ends textEnd (.more (.separator, .array :: outer)) ts last) :
    ∃ (trees : List Tree) (rest : List Token),
      symbols ts = itemSymbols false trees ++ symbols rest ∧
      rest.length < ts.length ∧ Ends textEnd (completed outer) rest last := by
  obtain ⟨next, more, rfl, hnext⟩ := h.exists_cons
  simp only [step, separatorStep] at hnext
  cases hl : next.lexeme with
  | comma =>
    simp only [hl] at hnext
    obtain ⟨first, after, rfl, hfirst⟩ := hnext.exists_cons
    simp only [step] at hfirst
    obtain ⟨item, behind, hitem, hlength, hends⟩ := exists_of_valueStep (by simp) hfirst
    obtain ⟨trees, rest, htrees, hshorter, hends⟩ := exists_of_separator_array hends
    refine ⟨item :: trees, rest, ?_, ?_, hends⟩
    · rw [symbols_cons, hl, symbols_cons, hitem, htrees]
      simp [Lexeme.symbol, itemSymbols]
    · rw [List.length_cons, List.length_cons]
      omega
  | arrayClose =>
    simp only [hl] at hnext
    refine ⟨[], more, ?_, by simp, hnext⟩
    rw [symbols_cons, hl]
    rfl
  | _ =>
    simp only [hl] at hnext
    exact (ends_failed_iff.mp hnext).elim
termination_by ts.length
decreasing_by
  all_goals
    subst_vars
    simp only [List.length_cons]
    omega
/-- Where the name of a member is expected a member is passed over, and the rest of them, unless an
object ends that was just opened. -/
theorem exists_of_nameStep {fresh : Bool} {outer : List Bracket} {token : Token} {ts : List Token}
    (hopen : fresh = true → token.lexeme ≠ .objectClose)
    (h : Ends textEnd (nameStep fresh (.object :: outer) token) ts last) :
    ∃ (member : Option String × Tree) (trees : List (Option String × Tree)) (rest : List Token),
      token.lexeme.symbol :: symbols ts = memberSymbols true (member :: trees) ++ symbols rest ∧
      rest.length < ts.length ∧ Ends textEnd (completed outer) rest last := by
  cases hl : token.lexeme with
  | string kept =>
    simp only [nameStep, hl] at h
    obtain ⟨colon, more, rfl, hcolon⟩ := h.exists_cons
    simp only [step] at hcolon
    split at hcolon
    · next hc =>
      obtain ⟨first, after, rfl, hfirst⟩ := hcolon.exists_cons
      simp only [step] at hfirst
      obtain ⟨member, behind, hmember, hlength, hends⟩ := exists_of_valueStep (by simp) hfirst
      obtain ⟨trees, rest, htrees, hshorter, hends⟩ := exists_of_separator_object hends
      refine ⟨(kept.toOption, member), trees, rest, ?_, ?_, hends⟩
      · rw [symbols_cons, hc, symbols_cons, hmember, htrees]
        simp [Lexeme.symbol, memberSymbols]
      · rw [List.length_cons, List.length_cons]
        omega
    · exact (ends_failed_iff.mp hcolon).elim
  | objectClose =>
    cases fresh with
    | true => exact absurd hl (hopen rfl)
    | false =>
      simp only [nameStep, hl] at h
      exact (ends_failed_iff.mp h).elim
  | _ =>
    simp only [nameStep, hl] at h
    exact (ends_failed_iff.mp h).elim
termination_by ts.length
decreasing_by
  all_goals
    subst_vars
    simp only [List.length_cons]
    omega
/-- Where an object goes on the rest of its members is passed over. -/
theorem exists_of_separator_object {outer : List Bracket} {ts : List Token}
    (h : Ends textEnd (.more (.separator, .object :: outer)) ts last) :
    ∃ (trees : List (Option String × Tree)) (rest : List Token),
      symbols ts = memberSymbols false trees ++ symbols rest ∧
      rest.length < ts.length ∧ Ends textEnd (completed outer) rest last := by
  obtain ⟨next, more, rfl, hnext⟩ := h.exists_cons
  simp only [step, separatorStep] at hnext
  cases hl : next.lexeme with
  | comma =>
    simp only [hl] at hnext
    obtain ⟨first, after, rfl, hfirst⟩ := hnext.exists_cons
    simp only [step] at hfirst
    obtain ⟨member, trees, rest, htrees, hshorter, hends⟩ :=
      exists_of_nameStep (by simp) hfirst
    refine ⟨member :: trees, rest, ?_, ?_, hends⟩
    · rw [symbols_cons, hl, symbols_cons, htrees]
      simp [Lexeme.symbol, memberSymbols]
    · rw [List.length_cons, List.length_cons]
      omega
  | objectClose =>
    simp only [hl] at hnext
    refine ⟨[], more, ?_, by simp, hnext⟩
    rw [symbols_cons, hl]
    rfl
  | _ =>
    simp only [hl] at hnext
    exact (ends_failed_iff.mp hnext).elim
termination_by ts.length
decreasing_by
  all_goals
    subst_vars
    simp only [List.length_cons]
    omega
end

end Skip

/-! ### What is read -/

/-- What is passed over is a tree. -/
theorem exists_tree_of_skip {textEnd : Nat} {ts : List Token} {taken : Taken Unit ts}
    (h : skip textEnd ts = .ok taken) :
    ∃ tree : Tree, symbols ts = tree.symbols ++ symbols taken.rest := by
  rw [skip, consumeTaken] at h
  split at h
  · next hrun =>
    cases h
    have hends : Skip.Ends textEnd (.more (.value, [])) ts _ := hrun
    obtain ⟨next, more, rfl, hnext⟩ := hends.exists_cons
    obtain ⟨tree, rest, htree, -, hlast⟩ := Skip.exists_of_valueStep (by simp) hnext
    obtain rfl : rest = _ := congrArg Prod.snd (Except.ok.inj hlast)
    exact ⟨tree, htree⟩
  · simp at h

/-- What is read is a tree with a value, and the value is that of the tree. -/
theorem exists_tree_of_readAny {place : Place} {ts : List Token} {taken : Taken Json ts}
    (h : readAny place ts = .ok taken) :
    ∃ tree : Tree, symbols ts = tree.symbols ++ symbols taken.rest ∧
      tree.value? = some taken.value := by
  rw [readAny, consumeTaken] at h
  split at h
  · next hrun =>
    cases h
    have hends : Read.Ends place (.more (.value, [])) ts _ := hrun
    obtain ⟨next, more, rfl, hnext⟩ := hends.exists_cons
    obtain ⟨tree, value, rest, htree, -, hvalue, hlast⟩ := Read.exists_of_valueStep hnext
    obtain ⟨rfl, rfl⟩ := Prod.mk.inj (Except.ok.inj hlast)
    exact ⟨tree, htree, hvalue⟩
  · simp at h

end TypedClient.Json
