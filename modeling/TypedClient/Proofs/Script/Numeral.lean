import TypedClient.Proofs.Text.Runs

/-!
# Numerals

A numeral is a whole number without zeros in front, then a point with digits after
it or neither, then a signed exponent or none. It stands for the number that its
digits make, times the power of ten that its point and its exponent give. A numeral
is put together from its digits, and the number it stands for is read off these.
-/

namespace TypedClient.Script

/-- The exponent that the end of a numeral gives. -/
def exponent? : List Char → Option Int
  | [] => some 0
  | 'e' :: sign :: digits =>
    if digits ≠ [] ∧ digits.all Char.isDigit = true then
      if sign = '+' then some (Nat.ofDigitChars 10 digits 0)
      else if sign = '-' then some (-Nat.ofDigitChars 10 digits 0)
      else none
    else none
  | _ => none

/-- The digits after the point, and what follows them. No digits if there is no point; a point
without digits is not part of a numeral. -/
def fraction? : List Char → Option (List Char × List Char)
  | '.' :: rest =>
    match rest.takeWhile Char.isDigit with
    | [] => none
    | digits => some (digits, rest.dropWhile Char.isDigit)
  | rest => some ([], rest)

/-- Whether digits may stand before the point. -/
def isWhole : List Char → Bool
  | [] => false
  | [_] => true
  | c :: _ => c != '0'

/-- The number that the digits before the point, those after it and the exponent make. -/
def decimal (whole fraction : List Char) (exponent : Int) : ℚ :=
  (Nat.ofDigitChars 10 (whole ++ fraction) 0 : ℚ) * (10 : ℚ) ^ (exponent - fraction.length)

/-- The number that a numeral stands for. -/
def numeral? (text : List Char) : Option ℚ :=
  let whole := text.takeWhile Char.isDigit
  if isWhole whole then
    (fraction? (text.dropWhile Char.isDigit)).bind fun (fraction, rest) =>
      (exponent? rest).map (decimal whole fraction)
  else none

/-- Digits with a point before them, or nothing if there are none. -/
def pointed (digits : List Char) : List Char :=
  if digits.isEmpty then [] else '.' :: digits

/-! ### Putting numerals together -/

/-- An exponent starts with its letter. -/
theorem head?_of_exponent? {tail : List Char} {exponent : Int}
    (h : exponent? tail = some exponent) : tail = [] ∨ tail.head? = some 'e' := by
  cases tail with
  | nil => exact Or.inl rfl
  | cons c rest =>
    right
    by_contra hc
    rw [exponent?] at h
    · simp at h
    · simp
    · intro sign digits he
      obtain ⟨rfl, -⟩ := List.cons.inj he
      exact hc rfl

theorem head?_exponent_not_digit {tail : List Char} {exponent : Int}
    (h : exponent? tail = some exponent) : tail.head?.any Char.isDigit = false := by
  rcases head?_of_exponent? h with rfl | he
  · rfl
  · rw [he]
    decide

theorem fraction?_pointed {digits tail : List Char} {exponent : Int}
    (hd : ∀ c ∈ digits, c.isDigit = true) (ht : exponent? tail = some exponent) :
    fraction? (pointed digits ++ tail) = some (digits, tail) := by
  cases digits with
  | nil =>
    have hpoint : ∀ rest, tail ≠ '.' :: rest := by
      rintro rest rfl
      rcases head?_of_exponent? ht with he | he
      · exact List.cons_ne_nil _ _ he
      · exact absurd (Option.some.inj he) (by decide)
    rw [pointed, List.isEmpty_nil, if_pos rfl, List.nil_append, fraction?]
    exact hpoint
  | cons c rest =>
    have htail := head?_exponent_not_digit ht
    have htake := Text.takeWhile_append hd htail
    have hdrop := Text.dropWhile_append hd htail
    rw [pointed, List.isEmpty_cons, if_neg (by decide), List.cons_append, fraction?, htake, hdrop]

/-- What a numeral of given parts stands for. -/
theorem numeral?_parts {whole digits tail : List Char} {exponent : Int}
    (hw : ∀ c ∈ whole, c.isDigit = true) (hwhole : isWhole whole = true)
    (hd : ∀ c ∈ digits, c.isDigit = true) (ht : exponent? tail = some exponent) :
    numeral? (whole ++ pointed digits ++ tail) =
      some (decimal whole digits exponent) := by
  have hrest : (pointed digits ++ tail).head?.any Char.isDigit = false := by
    cases digits with
    | nil => exact head?_exponent_not_digit ht
    | cons => rfl
  have htake := Text.takeWhile_append hw hrest
  have hdrop := Text.dropWhile_append hw hrest
  rw [List.append_assoc, numeral?, htake, hdrop, if_pos hwhole, fraction?_pointed hd ht,
    Option.bind_some]
  dsimp only
  rw [ht, Option.map_some]

/-- Digits that make a number times a power of ten make with an exponent that number times the
power that both give. -/
theorem decimal_eq {whole digits : List Char} {exponent power : Int} {n k : Nat}
    (hd : Nat.ofDigitChars 10 (whole ++ digits) 0 = n * 10 ^ k)
    (hp : exponent - digits.length + k = power) :
    decimal whole digits exponent = (n : ℚ) * (10 : ℚ) ^ power := by
  rw [decimal, hd, ← hp, zpow_add₀ (by norm_num), zpow_natCast]
  push_cast
  ring

/-! ### The characters of a numeral -/

/-- Whether a text is nothing, or the letter of an exponent with a sign and digits. -/
def IsExponent (tail : List Char) : Prop :=
  tail = [] ∨ ∃ sign digits, tail = 'e' :: sign :: digits ∧ (sign = '+' ∨ sign = '-') ∧
    ∀ c ∈ digits, c.isDigit = true

theorem isExponent_of_exponent? {tail : List Char} {exponent : Int}
    (h : exponent? tail = some exponent) : IsExponent tail := by
  unfold exponent? at h
  split at h
  · exact Or.inl rfl
  · next sign digits =>
    split at h
    · next hdigits =>
      refine Or.inr ⟨sign, digits, rfl, ?_, List.all_eq_true.mp hdigits.2⟩
      by_contra hsign
      rw [not_or] at hsign
      simp [hsign.1, hsign.2] at h
    · simp at h
  · simp at h

theorem exists_of_fraction? {text digits tail : List Char}
    (h : fraction? text = some (digits, tail)) :
    ∃ front, text = front ++ tail ∧ ∀ c ∈ front, c.isDigit = true ∨ c = '.' := by
  unfold fraction? at h
  split at h
  · next rest =>
    split at h
    · simp at h
    · obtain ⟨-, rfl⟩ := Prod.mk.inj (Option.some.inj h)
      refine ⟨'.' :: rest.takeWhile Char.isDigit, by simp, ?_⟩
      intro c hc
      rcases List.mem_cons.mp hc with rfl | hc
      · exact Or.inr rfl
      · exact Or.inl (List.mem_takeWhile_imp hc)
  · obtain ⟨-, rfl⟩ := Prod.mk.inj (Option.some.inj h)
    exact ⟨[], rfl, by simp⟩

/-- A numeral is digits and points, of which the first is a digit, and an exponent or none. -/
theorem exists_of_numeral? {text : List Char} {value : ℚ} (h : numeral? text = some value) :
    ∃ c front tail, text = c :: front ++ tail ∧ c.isDigit = true ∧
      (∀ d ∈ front, d.isDigit = true ∨ d = '.') ∧ IsExponent tail := by
  rw [numeral?] at h
  split at h
  · next hwhole =>
    obtain ⟨⟨digits, tail⟩, hf, he⟩ := Option.bind_eq_some_iff.mp h
    obtain ⟨exponent, he, -⟩ := Option.map_eq_some_iff.mp he
    obtain ⟨front, hrest, hfront⟩ := exists_of_fraction? hf
    have htext : text = text.takeWhile Char.isDigit ++ front ++ tail := by
      rw [List.append_assoc, ← hrest, List.takeWhile_append_dropWhile]
    have hdigits : ∀ d ∈ text.takeWhile Char.isDigit, d.isDigit = true := fun d hd =>
      List.mem_takeWhile_imp hd
    cases hl : text.takeWhile Char.isDigit with
    | nil => simp [hl, isWhole] at hwhole
    | cons c rest =>
      rw [hl] at htext hdigits
      refine ⟨c, rest ++ front, tail, htext, hdigits c List.mem_cons_self, ?_,
        isExponent_of_exponent? he⟩
      intro d hd
      rcases List.mem_append.mp hd with hd | hd
      · exact Or.inl (hdigits d (List.mem_cons_of_mem c hd))
      · exact hfront d hd
  · simp at h

/-- The characters of a numeral are digits, the point, and the letter and signs of an exponent. -/
theorem isDigit_or_mem_of_numeral? {text : List Char} {value : ℚ} (h : numeral? text = some value)
    {c : Char} (hc : c ∈ text) : c.isDigit = true ∨ c ∈ ['.', 'e', '+', '-'] := by
  obtain ⟨first, front, tail, rfl, hfirst, hfront, htail⟩ := exists_of_numeral? h
  rcases List.mem_append.mp hc with hc | hc
  · rcases List.mem_cons.mp hc with rfl | hc
    · exact Or.inl hfirst
    · rcases hfront c hc with hd | rfl
      · exact Or.inl hd
      · exact Or.inr (by decide)
  · rcases htail with rfl | ⟨sign, digits, rfl, hsign, hdigits⟩
    · exact absurd hc List.not_mem_nil
    · rcases List.mem_cons.mp hc with rfl | hc
      · exact Or.inr (by decide)
      rcases List.mem_cons.mp hc with rfl | hc
      · rcases hsign with rfl | rfl <;> exact Or.inr (by decide)
      · exact Or.inl (hdigits c hc)

end TypedClient.Script
