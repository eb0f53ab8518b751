import TypedClient.Json.Number
import TypedClient.Proofs.Script.Numeral
import TypedClient.Proofs.Text.Lines

/-!
# The text of a number is a numeral

The digits of the shortest decimal of a positive magnitude do not start with a zero,
so they may stand before the point. Wherever the text of a magnitude has its point,
and whether it has an exponent, it is a numeral for that decimal; the text of a
number is such a numeral, after a minus sign if the number is negative.
-/

namespace TypedClient.Decimal.Shortest

/-! ### The shortest decimal of a positive magnitude is positive -/

theorem quotient_snd_pos (d : Digits) : 0 < (quotient d).2 := by
  rw [quotient]
  split
  · exact Nat.pow_pos (by decide)
  · exact Nat.one_pos

/-- Zero rounds to no positive magnitude. -/
theorem roundsTo_zero {x : Magnitude} (hx : x.mantissa ≠ 0) {den : Nat} (hden : 0 < den) :
    roundsTo x 0 den = false := by
  have hlow : 0 < (bounds x).1 := by
    rw [bounds]
    dsimp only
    split <;> omega
  have hfst : (Magnitude.scaled 0 den (x.exponent - 2)).1 = 0 := by
    rw [Magnitude.scaled]
    split <;> simp
  have hsnd : 0 < (Magnitude.scaled 0 den (x.exponent - 2)).2 := by
    rw [Magnitude.scaled]
    split
    · exact hden
    · exact Nat.mul_pos hden (Nat.pow_pos (by decide))
  have hlt := Nat.mul_pos hlow hsnd
  rw [roundsTo]
  dsimp only
  rw [hfst]
  split
  · rw [decide_eq_false (by omega), Bool.false_and]
  · rw [decide_eq_false (by omega), Bool.false_and]

theorem digits_ne_zero_of_atPower {x : Magnitude} (hx : x.mantissa ≠ 0) {exponent : Int}
    {d : Digits} (h : atPower x exponent = some d) : d.digits ≠ 0 := by
  have hlow : roundsTo x (quotient ⟨floorAt x exponent, exponent⟩).1
      (quotient ⟨floorAt x exponent, exponent⟩).2 = true → floorAt x exponent ≠ 0 := by
    intro hfits hzero
    have hnum : (quotient ⟨floorAt x exponent, exponent⟩).1 = 0 := by
      rw [quotient, hzero]
      split <;> simp
    rw [hnum, roundsTo_zero hx (quotient_snd_pos _)] at hfits
    exact absurd hfits (by decide)
  rw [atPower] at h
  dsimp only at h
  split at h
  · next hfits _ =>
    split at h
    · obtain rfl := Option.some.inj h
      exact hlow hfits
    · split at h
      · obtain rfl := Option.some.inj h
        exact Nat.succ_ne_zero _
      · split at h
        · obtain rfl := Option.some.inj h
          exact hlow hfits
        · obtain rfl := Option.some.inj h
          exact Nat.succ_ne_zero _
  · next hfits _ =>
    obtain rfl := Option.some.inj h
    exact hlow hfits
  · obtain rfl := Option.some.inj h
    exact Nat.succ_ne_zero _
  · simp at h

theorem stripZeros_digits_ne_zero (fuel : Nat) {d : Digits} (h : d.digits ≠ 0) :
    (stripZeros fuel d).digits ≠ 0 := by
  induction fuel generalizing d with
  | zero => exact h
  | succ fuel ih =>
    rw [stripZeros]
    split
    · next hlast =>
      apply ih
      show d.digits / 10 ≠ 0
      omega
    · exact h

theorem digits_ne_zero {x : Magnitude} (hx : x.mantissa ≠ 0) : (digits x).digits ≠ 0 := by
  rw [digits]
  apply stripZeros_digits_ne_zero
  cases hf : (List.range 17).findSome? fun (n : Nat) => atPower x (firstPower x - (n : Int)) with
  | none => exact hx
  | some d =>
    obtain ⟨n, -, hn⟩ := List.exists_of_findSome?_eq_some hf
    exact digits_ne_zero_of_atPower hx hn

end TypedClient.Decimal.Shortest

namespace TypedClient.Json.Number

open TypedClient.Decimal TypedClient.Script

/-- The decimal for a magnitude: the shortest of those that round to it. -/
def shortest (x : Magnitude) : ℚ :=
  if x.mantissa = 0 then 0
  else ((Shortest.digits x).digits : ℚ) * (10 : ℚ) ^ (Shortest.digits x).exponent

/-- The number that the text of a number stands for. -/
def value : Number → ℚ
  | .int value => value
  | .float negative magnitude => if negative then -shortest magnitude else shortest magnitude

/-! ### Digits -/

theorem isDigit_of_mem_toString {n : Nat} {c : Char} (h : c ∈ (toString n).toList) :
    c.isDigit = true := by
  rw [Nat.toString_eq_repr, Nat.toList_repr] at h
  exact Nat.isDigit_of_mem_toDigits (by decide) (by decide) h

theorem ofDigitChars_toString (n : Nat) : Nat.ofDigitChars 10 (toString n).toList 0 = n := by
  rw [Nat.toString_eq_repr, Nat.toList_repr, Nat.ofDigitChars_ten_toDigits]

/-- The digits of a positive number do not start with a zero. -/
theorem head?_toDigits {n : Nat} (h : n ≠ 0) : (Nat.toDigits 10 n).head? ≠ some '0' := by
  induction n using Nat.strong_induction_on with
  | _ n ih =>
    rw [Nat.toDigits_eq_if (by decide)]
    split
    · intro hz
      exact h (Nat.digitChar_eq_zero.mp (Option.some.inj hz))
    · next hn =>
      rw [List.head?_append_of_ne_nil _ Nat.toDigits_ne_nil]
      exact ih (n / 10) (by omega) (by omega)

/-- The digits of a positive number may stand before the point, as may more digits after them. -/
theorem isWhole_toString_append {n : Nat} (h : n ≠ 0) (more : List Char) :
    isWhole ((toString n).toList ++ more) = true := by
  have hhead := head?_toDigits h
  rw [Nat.toString_eq_repr, Nat.toList_repr]
  cases hl : Nat.toDigits 10 n with
  | nil => exact absurd hl Nat.toDigits_ne_nil
  | cons c rest =>
    have hc : (c != '0') = true := by
      rw [bne_iff_ne]
      rintro rfl
      rw [hl] at hhead
      exact hhead rfl
    rw [List.cons_append]
    cases rest ++ more with
    | nil => rfl
    | cons => exact hc

/-- The digits of a whole number are a numeral for it. -/
theorem numeral?_toString (n : Nat) : numeral? (toString n).toList = some (n : ℚ) := by
  have hwhole : isWhole (toString n).toList = true := by
    by_cases h : n = 0
    · subst h
      rfl
    · simpa using isWhole_toString_append h []
  have hparts := numeral?_parts (fun _ => isDigit_of_mem_toString) hwhole
    (fun c (hc : c ∈ []) => absurd hc List.not_mem_nil) (show exponent? [] = some 0 from rfl)
  rw [pointed, List.isEmpty_nil, if_pos rfl, List.append_nil, List.append_nil] at hparts
  rw [hparts, decimal, List.append_nil, ofDigitChars_toString]
  simp

/-! ### The point and the exponent -/

theorem isDigit_of_mem_zeros {k : Nat} {c : Char} (h : c ∈ List.replicate k '0') :
    c.isDigit = true := by
  obtain rfl := (List.mem_replicate.mp h).2
  rfl

theorem toString_toList_ne_nil (n : Nat) : (toString n).toList ≠ [] := by
  rw [Nat.toString_eq_repr, Nat.toList_repr]
  exact Nat.toDigits_ne_nil

/-- Digits behind zeros behind the point. -/
theorem numeral?_behind (n k : Nat) :
    numeral? (['0'] ++ pointed (List.replicate k '0' ++ (toString n).toList)) =
      some ((n : ℚ) * (10 : ℚ) ^ (-(k + (toString n).length) : Int)) := by
  have hdigits : ∀ c ∈ List.replicate k '0' ++ (toString n).toList, c.isDigit = true := by
    intro c hc
    rcases List.mem_append.mp hc with hc | hc
    · exact isDigit_of_mem_zeros hc
    · exact isDigit_of_mem_toString hc
  have hvalue : Nat.ofDigitChars 10 (['0'] ++ (List.replicate k '0' ++ (toString n).toList)) 0 =
      n * 10 ^ 0 := by
    rw [← List.append_assoc, ← List.replicate_one, List.replicate_append_replicate,
      Nat.ofDigitChars_append, Nat.ofDigitChars_replicate_zero, Nat.mul_zero,
      ofDigitChars_toString, Nat.pow_zero, Nat.mul_one]
  have hparts := numeral?_parts (show ∀ c ∈ ['0'], c.isDigit = true by simp) rfl hdigits
    (show exponent? [] = some 0 from rfl)
  rw [List.append_nil] at hparts
  rw [hparts, decimal_eq hvalue]
  rw [List.length_append, List.length_replicate, String.length_toList]
  omega

/-- Digits and zeros before the point, and a zero after it. -/
theorem numeral?_before {n : Nat} (hn : n ≠ 0) (k : Nat) :
    numeral? ((toString n).toList ++ List.replicate k '0' ++ pointed ['0']) =
      some ((n : ℚ) * (10 : ℚ) ^ (k : Int)) := by
  have hdigits : ∀ c ∈ (toString n).toList ++ List.replicate k '0', c.isDigit = true := by
    intro c hc
    rcases List.mem_append.mp hc with hc | hc
    · exact isDigit_of_mem_toString hc
    · exact isDigit_of_mem_zeros hc
  have hvalue : Nat.ofDigitChars 10 ((toString n).toList ++ List.replicate k '0' ++ ['0']) 0 =
      n * 10 ^ (k + 1) := by
    rw [List.append_assoc, ← List.replicate_succ', Nat.ofDigitChars_append, ofDigitChars_toString,
      Nat.ofDigitChars_replicate_zero, Nat.mul_comm]
  have hparts := numeral?_parts hdigits (isWhole_toString_append hn (List.replicate k '0'))
    (show ∀ c ∈ ['0'], c.isDigit = true by simp) (show exponent? [] = some 0 from rfl)
  rw [List.append_nil] at hparts
  rw [hparts, decimal_eq hvalue]
  rw [List.length_singleton]
  omega

/-- Digits with the point between them or behind the last, and an exponent. -/
theorem numeral?_around {n : Nat} (hn : n ≠ 0) {k : Nat} (hk : k ≠ 0) {tail : List Char}
    {exponent : Int} (ht : exponent? tail = some exponent) :
    numeral? ((toString n).toList.take k ++ pointed ((toString n).toList.drop k) ++ tail) =
      some ((n : ℚ) * (10 : ℚ) ^ (exponent - ((toString n).length - k : Nat))) := by
  have hdigits (part : List Char) (h : ∀ c ∈ part, c ∈ (toString n).toList) :
      ∀ c ∈ part, c.isDigit = true := fun c hc => isDigit_of_mem_toString (h c hc)
  have hwhole : isWhole ((toString n).toList.take k) = true := by
    have hfull := isWhole_toString_append hn []
    rw [List.append_nil] at hfull
    cases hl : (toString n).toList with
    | nil => exact absurd hl (toString_toList_ne_nil n)
    | cons c rest =>
      obtain ⟨j, rfl⟩ := Nat.exists_eq_succ_of_ne_zero hk
      rw [hl] at hfull
      rw [List.take_succ_cons]
      cases rest with
      | nil => rw [List.take_nil]; rfl
      | cons d rest =>
        cases j with
        | zero => rfl
        | succ j => exact hfull
  have hvalue : Nat.ofDigitChars 10 ((toString n).toList.take k ++ (toString n).toList.drop k) 0 =
      n * 10 ^ 0 := by
    rw [List.take_append_drop, ofDigitChars_toString, Nat.pow_zero, Nat.mul_one]
  rw [numeral?_parts (hdigits _ fun _ => List.mem_of_mem_take) hwhole
    (hdigits _ fun _ => List.mem_of_mem_drop) ht, decimal_eq hvalue]
  rw [List.length_drop, String.length_toList]
  omega

/-- A decimal with the point in its place is a numeral for it. -/
theorem numeral?_withPoint {n : Nat} (hn : n ≠ 0) {first power : Int}
    (hfirst : first = power + (toString n).length - 1) :
    numeral? (withPoint (toString n) first).toList = some ((n : ℚ) * (10 : ℚ) ^ power) := by
  rw [withPoint]
  split
  · next hneg =>
    have htext : ("0." ++ "".pushn '0' (-first - 1).toNat ++ toString n).toList =
        ['0'] ++ pointed (List.replicate (-first - 1).toNat '0' ++ (toString n).toList) := by
      have hzero : "0.".toList = ['0', '.'] := rfl
      rw [pointed, if_neg (by simp), String.toList_append, String.toList_append,
        Text.toList_pushn, hzero]
      simp
    have hpower : (-((-first - 1).toNat + (toString n).length) : Int) = power := by omega
    rw [htext, numeral?_behind, hpower]
  · next hpos =>
    dsimp only
    split
    · next hlong =>
      have htext : ((toString n).pushn '0' (first.toNat + 1 - (toString n).length) ++ ".0").toList =
          (toString n).toList ++ List.replicate (first.toNat + 1 - (toString n).length) '0' ++
            pointed ['0'] := by
        have hpoint : ".0".toList = pointed ['0'] := rfl
        rw [String.toList_append, Text.toList_pushn, hpoint]
      have hpower : ((first.toNat + 1 - (toString n).length : Nat) : Int) = power := by omega
      rw [htext, numeral?_before hn, hpower]
    · next hshort =>
      have hdrop : (toString n).toList.drop (first.toNat + 1) ≠ [] := by
        rw [Ne, List.drop_eq_nil_iff, String.length_toList]
        exact hshort
      have htext : (String.ofList ((toString n).toList.take (first.toNat + 1)) ++ "." ++
          String.ofList ((toString n).toList.drop (first.toNat + 1))).toList =
          (toString n).toList.take (first.toNat + 1) ++
            pointed ((toString n).toList.drop (first.toNat + 1)) ++ [] := by
        have hpoint : ".".toList = ['.'] := rfl
        rw [pointed, if_neg (by simpa using hdrop), String.toList_append, String.toList_append,
          hpoint, String.toList_ofList, String.toList_ofList, List.append_nil, List.append_assoc,
          List.singleton_append]
      have hpower : (0 - ((toString n).length - (first.toNat + 1) : Nat) : Int) = power := by
        omega
      rw [htext, numeral?_around hn (Nat.succ_ne_zero _) (show exponent? [] = some 0 from rfl),
        hpower]

/-- A signed exponent gives the number that it is written for. -/
theorem exponent?_signed (first : Int) :
    exponent? ("e" ++ (if first < 0 then "-" else "+") ++ toString first.natAbs).toList =
      some first := by
  have hdigits : (toString first.natAbs).toList ≠ [] ∧
      (toString first.natAbs).toList.all Char.isDigit = true :=
    ⟨toString_toList_ne_nil _, List.all_eq_true.mpr fun c hc => isDigit_of_mem_toString hc⟩
  rw [String.toList_append, String.toList_append]
  split
  · next hneg =>
    show exponent? ('e' :: '-' :: (toString first.natAbs).toList) = some first
    rw [exponent?, if_pos hdigits, if_neg (by decide), if_pos rfl, ofDigitChars_toString]
    congr 1
    omega
  · next hpos =>
    show exponent? ('e' :: '+' :: (toString first.natAbs).toList) = some first
    rw [exponent?, if_pos hdigits, if_pos rfl, ofDigitChars_toString]
    congr 1
    omega

/-- A decimal with one digit before the point and an exponent is a numeral for it. -/
theorem numeral?_withExponent {n : Nat} (hn : n ≠ 0) {first power : Int}
    (hfirst : first = power + (toString n).length - 1) :
    numeral? (withExponent (toString n) first).toList = some ((n : ℚ) * (10 : ℚ) ^ power) := by
  have htext : (withExponent (toString n) first).toList =
      (toString n).toList.take 1 ++ pointed ((toString n).toList.drop 1) ++
        ("e" ++ (if first < 0 then "-" else "+") ++ toString first.natAbs).toList := by
    rw [withExponent]
    simp only [String.append_assoc, String.toList_append, String.toList_ofList, pointed]
    split <;> simp
  have hlength : 0 < (toString n).length := by
    rw [← String.length_toList]
    exact List.length_pos_of_ne_nil (toString_toList_ne_nil n)
  have hpower : first - ((toString n).length - 1 : Nat) = power := by omega
  rw [htext, numeral?_around hn one_ne_zero (exponent?_signed first), hpower]

/-- The text of a magnitude is a numeral for its shortest decimal. -/
theorem numeral?_magnitudeText (x : Magnitude) :
    numeral? (magnitudeText x).toList = some (shortest x) := by
  rw [magnitudeText, shortest]
  split
  · have hzero := numeral?_behind 0 0
    rw [Nat.cast_zero, zero_mul] at hzero
    exact hzero
  · next hx =>
    have hn := Shortest.digits_ne_zero hx
    generalize Shortest.digits x = d at hn ⊢
    dsimp only
    split
    · exact numeral?_withPoint hn rfl
    · exact numeral?_withExponent hn rfl

/-- The text of a number is a numeral, perhaps after a minus sign. -/
theorem exists_numeral_text (number : Number) :
    ∃ numeral value, numeral? numeral.toList = some value ∧
      (number.text = numeral ∧ number.value = value ∨
        number.text = "-" ++ numeral ∧ number.value = -value) := by
  cases number with
  | int value =>
    rw [text, Number.value, Int.toString_eq_repr]
    cases value with
    | ofNat n =>
      exact ⟨toString n, n, numeral?_toString n, Or.inl ⟨rfl, by simp⟩⟩
    | negSucc n =>
      refine ⟨toString (n + 1), (n + 1 : Nat), numeral?_toString (n + 1), Or.inr ⟨rfl, ?_⟩⟩
      rw [Int.cast_negSucc]
  | float negative x =>
    refine ⟨magnitudeText x, shortest x, numeral?_magnitudeText x, ?_⟩
    cases negative with
    | false => exact Or.inl ⟨String.empty_append, rfl⟩
    | true => exact Or.inr ⟨rfl, rfl⟩

end TypedClient.Json.Number
