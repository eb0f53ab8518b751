import TypedClient.Proofs.Naming.Words

/-!
# Which methods share their types

The stem of a type name makes a capital small unless a small letter stands before
it. Two method names therefore have one stem exactly when they are the same up to
case and have a capital after a small letter at the same places.
-/

namespace TypedClient.Client

/-- For each two neighbours in a text, whether a capital follows a small letter there. -/
def humps (text : List Char) : List Bool :=
  List.zipWith (fun a b => a.isLower && b.isUpper) text text.tail

/-- Two names are the same up to case and have their humps at the same places. -/
def SameHumps (a b : String) : Prop :=
  a.toList.map Char.toLower = b.toList.map Char.toLower ∧ humps a.toList = humps b.toList

instance (a b : String) : Decidable (SameHumps a b) :=
  inferInstanceAs (Decidable (_ ∧ _))

theorem humps_cons_cons (a b : Char) (rest : List Char) :
    humps (a :: b :: rest) = (a.isLower && b.isUpper) :: humps (b :: rest) := rfl

/-! ### Characters up to case -/

/-- A character is settled by its small form and by whether it is a capital. -/
theorem eq_of_toLower_eq {c d : Char} (hl : c.toLower = d.toLower) (hu : c.isUpper = d.isUpper) :
    c = d := by
  by_cases h : c.isUpper = true
  · have hd : d.isUpper = true := by rw [← hu, h]
    have hc (e : Char) (he : e.isUpper = true) : e.toLower.toUpper = e := by
      rw [Char.toUpper_toLower_eq_toUpper, Char.toUpper_eq_of_not_isLower]
      exact fun hlow => Char.not_isLower_of_isUpper he hlow
    rw [← hc c h, ← hc d hd, hl]
  · have hd : ¬ d.isUpper = true := by rwa [← hu]
    rw [← Char.toLower_eq_of_not_isUpper h, ← Char.toLower_eq_of_not_isUpper hd, hl]

theorem toUpper_eq_toUpper_iff {c d : Char} : c.toUpper = d.toUpper ↔ c.toLower = d.toLower := by
  constructor
  · intro h
    rw [← Char.toLower_toUpper_eq_toLower c, h, Char.toLower_toUpper_eq_toLower]
  · intro h
    rw [← Char.toUpper_toLower_eq_toUpper c, h, Char.toUpper_toLower_eq_toUpper]

/-- A character as a word has it inside: small, unless a small letter stands before it. -/
def settled (previous c : Char) : Char :=
  if previous.isLower then c else c.toLower

theorem toLower_settled (p c : Char) : (settled p c).toLower = c.toLower := by
  unfold settled
  split
  · rfl
  · exact Char.toLower_toLower_eq_toLower c

theorem isUpper_settled (p c : Char) : (settled p c).isUpper = (p.isLower && c.isUpper) := by
  unfold settled
  cases p.isLower with
  | true => simp
  | false => simp

/-- What is left of a character inside a word is its small form and whether it is a hump. -/
theorem settled_eq_settled_iff {p q c d : Char} :
    settled p c = settled q d ↔
      c.toLower = d.toLower ∧ (p.isLower && c.isUpper) = (q.isLower && d.isUpper) := by
  rw [← toLower_settled p c, ← toLower_settled q d, ← isUpper_settled p c, ← isUpper_settled q d]
  constructor
  · intro h
    rw [h]
    exact ⟨rfl, rfl⟩
  · rintro ⟨hl, hu⟩
    exact eq_of_toLower_eq hl hu

/-! ### Stems -/

theorem joinWords_cons_of_inWord {p c : Char} {rest : List Char} (h : inWord c = true) :
    joinWords false (some p) (c :: rest) = settled p c :: joinWords false (some c) rest := by
  simp only [joinWords, isWordBreak_eq_false h, Bool.false_eq_true, ite_false, Option.map_some,
    Option.getD_some, settled]
  by_cases hp : p.isLower = true
  · simp only [hp, ite_true]
  · simp only [hp, Bool.false_eq_true, ite_false]

/-- The tails of two words are joined to the same text exactly when they are the same up to case
and have the same humps, those at their start counted. -/
theorem joinWords_eq_joinWords_iff {a b : List Char} (ha : ∀ c ∈ a, inWord c = true)
    (hb : ∀ c ∈ b, inWord c = true) (p q : Char) :
    joinWords false (some p) a = joinWords false (some q) b ↔
      a.map Char.toLower = b.map Char.toLower ∧ humps (p :: a) = humps (q :: b) := by
  induction a generalizing b p q with
  | nil =>
    cases b with
    | nil => simp [joinWords, humps]
    | cons d b =>
      rw [joinWords_cons_of_inWord (hb d (by simp))]
      simp [joinWords]
  | cons c a ih =>
    cases b with
    | nil =>
      rw [joinWords_cons_of_inWord (ha c (by simp))]
      simp [joinWords]
    | cons d b =>
      have hr := ih (b := b) (fun e he => ha e (by simp [he])) (fun e he => hb e (by simp [he])) c d
      rw [joinWords_cons_of_inWord (ha c (by simp)), joinWords_cons_of_inWord (hb d (by simp)),
        List.cons.injEq, hr, settled_eq_settled_iff, humps_cons_cons, humps_cons_cons,
        List.map_cons, List.map_cons, List.cons.injEq, List.cons.injEq, and_and_and_comm]

section OfSpelling

variable (spell : List Char → List Char)

theorem methodName_ofSpelling (operationId : String) :
    letI := NameStyle.ofSpelling spell
    methodName operationId =
      let words := camelCase (tidy (spell operationId.toList))
      if words.isEmpty then "operation"
      else if startsWithDigit words then "_" ++ String.ofList words
      else String.ofList words :=
  rfl

theorem typeStem_ofSpelling (method : String) :
    letI := NameStyle.ofSpelling spell
    typeStem method = String.ofList (pascalCase method.toList) :=
  rfl

/-- A method name starts with some character, and word characters follow. -/
theorem methodName_toList (operationId : String) :
    letI := NameStyle.ofSpelling spell
    ∃ c rest, (methodName operationId).toList = c :: rest ∧ inIdentifier c = true ∧
      ∀ d ∈ rest, inWord d = true := by
  have hw : ∀ d ∈ camelCase (tidy (spell operationId.toList)), inWord d = true :=
    fun d hd => inWord_of_mem_camelCase_tidy hd
  rw [methodName_ofSpelling]
  cases hc : camelCase (tidy (spell operationId.toList)) with
  | nil => exact ⟨'o', ['p', 'e', 'r', 'a', 't', 'i', 'o', 'n'], rfl, by decide, by
    simp [inWord, inIdentifier]⟩
  | cons c rest =>
    rw [hc] at hw
    by_cases hd : startsWithDigit (c :: rest) = true
    · refine ⟨'_', c :: rest, ?_, by decide, hw⟩
      simp [hd]
    · refine ⟨c, rest, ?_, (inWord_iff.mp (hw c (by simp))).1, fun d hd => hw d (by simp [hd])⟩
      simp [hd]

/-- The types of two methods have one name exactly when the method names are the same up to case
and have the same humps. -/
theorem typeStem_methodName_eq_iff (id id' : String) :
    letI := NameStyle.ofSpelling spell
    typeStem (methodName id) = typeStem (methodName id') ↔
      SameHumps (methodName id) (methodName id') := by
  obtain ⟨c, a, hc, -, ha⟩ := methodName_toList spell id
  obtain ⟨d, b, hd, -, hb⟩ := methodName_toList spell id'
  simp only [typeStem_ofSpelling, SameHumps, String.ofList_inj, hc, hd, pascalCase, joinWords,
    ite_true, List.cons.injEq, List.map_cons, joinWords_eq_joinWords_iff ha hb c d,
    toUpper_eq_toUpper_iff, and_assoc]

end OfSpelling

end TypedClient.Client
