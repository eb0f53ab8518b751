import TypedClient.Proofs.Script.Numeral
import TypedClient.Proofs.Script.StringLiteral

/-!
# Constants and unions of them

A constant is a string between single quotes, a numeral that may have a minus sign, a
truth value or `null`. The pieces of a union stand between bars with blanks around
them; a bar in a string separates nothing. A text that is written between quotes with
escapes is one string whatever it says, because each quote in it follows a backslash.
-/

namespace TypedClient.Script

/-- The string that a literal between single quotes stands for. -/
def unquote? : List Char → Option String
  | '\'' :: rest =>
    match rest.getLast?, feed StringMode.step .text rest.dropLast with
    | some '\'', some (text, .text) => some (String.ofList text)
    | _, _ => none
  | _ => none

/-- The places at which a quote stands that no backslash escapes, counted from `place`. -/
def openQuotes (place : Nat) : List Char → List Nat
  | [] => []
  | '\\' :: _ :: rest => openQuotes (place + 2) rest
  | c :: rest =>
    if c = '\'' then place :: openQuotes (place + 1) rest else openQuotes (place + 1) rest

/-- A constant. -/
inductive Constant where
  /-- A string. -/
  | string (value : String)
  /-- A number as it is spelled. -/
  | number (spelling : String)
  /-- A truth value. -/
  | bool (value : Bool)
  /-- The value `null`. -/
  | null
  deriving DecidableEq, Repr

/-- Whether a text is a numeral, perhaps after a minus sign. -/
def isSigned (text : List Char) : Bool :=
  (numeral? (if text.head? = some '-' then text.tail else text)).isSome

/-- Reads a constant. -/
def Constant.read? (text : List Char) : Option Constant :=
  if isSigned text then some (.number (String.ofList text))
  else if text = "null".toList then some .null
  else if text = "true".toList then some (.bool true)
  else if text = "false".toList then some (.bool false)
  else (unquote? text).map .string

/-! ### Pieces of a union -/

/-- Where a reader is with respect to strings. -/
inductive Quoting where
  /-- In no string. -/
  | outside
  /-- In a string. -/
  | inside
  /-- In a string, after a backslash. -/
  | escaped
  deriving DecidableEq, Repr

/-- Where the reader is after a character. -/
def Quoting.next : Quoting → Char → Quoting
  | .outside, c => if c = '\'' then .inside else .outside
  | .inside, c => if c = '\\' then .escaped else if c = '\'' then .outside else .inside
  | .escaped, _ => .inside

/-- The pieces of a text between the bars with blanks around them that stand in no string. The
first piece starts with `soFar`. -/
def alternatives : Quoting → List Char → List Char → List (List Char)
  | _, soFar, [] => [soFar]
  | .outside, soFar, ' ' :: '|' :: ' ' :: rest => soFar :: alternatives .outside [] rest
  | quoting, soFar, c :: rest => alternatives (quoting.next c) (soFar ++ [c]) rest

/-- A text that belongs to the piece that it stands in, whatever is before and after it. -/
def IsPiece (text : List Char) : Prop :=
  ∀ soFar rest,
    alternatives .outside soFar (text ++ rest) = alternatives .outside (soFar ++ text) rest

theorem alternatives_outside {c : Char} (h : c ≠ ' ') (soFar rest : List Char) :
    alternatives .outside soFar (c :: rest) =
      alternatives (Quoting.next .outside c) (soFar ++ [c]) rest := by
  rw [alternatives]
  intro _ _ he
  exact absurd he h

theorem alternatives_inside (soFar : List Char) (c : Char) (rest : List Char) :
    alternatives .inside soFar (c :: rest) =
      alternatives (Quoting.next .inside c) (soFar ++ [c]) rest := by
  rw [alternatives]
  intro _ he
  cases he

theorem alternatives_escaped (soFar : List Char) (c : Char) (rest : List Char) :
    alternatives .escaped soFar (c :: rest) = alternatives .inside (soFar ++ [c]) rest := by
  rw [alternatives, Quoting.next]
  intro _ he
  cases he

/-- The pieces that a union is put together from are those that it is taken apart into. -/
theorem alternatives_intercalate (soFar : List Char) {first : List Char}
    {others : List (List Char)} (hf : IsPiece first) (ho : ∀ piece ∈ others, IsPiece piece) :
    alternatives .outside soFar ([' ', '|', ' '].intercalate (first :: others)) =
      (soFar ++ first) :: others := by
  induction others generalizing soFar first with
  | nil =>
    have hlast := hf soFar []
    rw [List.append_nil, alternatives] at hlast
    rw [List.intercalate_singleton, hlast]
  | cons second others ih =>
    have hrest := ih [] (ho second List.mem_cons_self)
      fun piece hp => ho piece (List.mem_cons_of_mem second hp)
    rw [List.intercalate_cons_cons, List.append_assoc, hf]
    show alternatives .outside (soFar ++ first)
      (' ' :: '|' :: ' ' :: [' ', '|', ' '].intercalate (second :: others)) = _
    rw [alternatives, hrest, List.nil_append]

/-- A text without blanks and quotes is a part of one piece. -/
theorem isPiece_of_plain {text : List Char} (h : ∀ c ∈ text, c ≠ ' ' ∧ c ≠ '\'') :
    IsPiece text := by
  intro soFar rest
  induction text generalizing soFar with
  | nil => rw [List.nil_append, List.append_nil]
  | cons c text ih =>
    have hc := h c List.mem_cons_self
    have hnext : Quoting.next .outside c = .outside := by rw [Quoting.next, if_neg hc.2]
    rw [List.cons_append, alternatives_outside hc.1, hnext,
      ih (fun d hd => h d (List.mem_cons_of_mem c hd)), List.append_assoc, List.singleton_append]

/-! ### What stands between quotes -/

/-- What may stand in a string: each quote and each backslash in it follows a backslash. -/
inductive IsBody : List Char → Prop where
  /-- Nothing. -/
  | nil : IsBody []
  /-- A character that is not a quote or a backslash. -/
  | char {c : Char} {rest : List Char} (hq : c ≠ '\'') (hb : c ≠ '\\') (hr : IsBody rest) :
    IsBody (c :: rest)
  /-- A backslash and the character after it. -/
  | escape (c : Char) {rest : List Char} (hr : IsBody rest) : IsBody ('\\' :: c :: rest)

namespace IsBody

variable {body other : List Char}

theorem append (h : IsBody body) (ho : IsBody other) : IsBody (body ++ other) := by
  induction h with
  | nil => exact ho
  | char hq hb _ ih => exact .char hq hb ih
  | escape c _ ih => exact .escape c ih

theorem alternatives_append (h : IsBody body) (soFar rest : List Char) :
    alternatives .inside soFar (body ++ rest) = alternatives .inside (soFar ++ body) rest := by
  induction h generalizing soFar with
  | nil => rw [List.nil_append, List.append_nil]
  | @char c body hq hb _ ih =>
    have hnext : Quoting.next .inside c = .inside := by
      rw [Quoting.next, if_neg hb, if_neg hq]
    rw [List.cons_append, alternatives_inside, hnext, ih, List.append_assoc,
      List.singleton_append]
  | @escape c body _ ih =>
    have hnext : Quoting.next .inside '\\' = .escaped := rfl
    rw [List.cons_append, List.cons_append, alternatives_inside, hnext, alternatives_escaped, ih]
    simp only [List.append_assoc, List.cons_append, List.nil_append]

theorem openQuotes_append (h : IsBody body) (place : Nat) (rest : List Char) :
    openQuotes place (body ++ rest) = openQuotes (place + body.length) rest := by
  induction h generalizing place with
  | nil => rfl
  | @char c body hq hb _ ih =>
    rw [List.cons_append, openQuotes, if_neg hq, ih, List.length_cons]
    · congr 1
      omega
    · intro _ _ he
      exact absurd he hb
  | @escape c body _ ih =>
    rw [List.cons_append, List.cons_append, openQuotes, ih, List.length_cons, List.length_cons]
    congr 1
    omega

/-- A string is a part of one piece. -/
theorem isPiece (h : IsBody body) : IsPiece ('\'' :: body ++ ['\'']) := by
  intro soFar rest
  have hopen : Quoting.next .outside '\'' = .inside := rfl
  have hclose : Quoting.next .inside '\'' = .outside := rfl
  rw [List.cons_append, List.cons_append, alternatives_outside (by decide), hopen,
    List.append_assoc, h.alternatives_append, List.singleton_append, alternatives_inside, hclose]
  simp only [List.append_assoc, List.cons_append, List.nil_append]

/-- In a string the first character and the last are the only quotes without a backslash. -/
theorem openQuotes_quotes (h : IsBody body) :
    openQuotes 0 ('\'' :: body ++ ['\'']) = [0, body.length + 1] := by
  rw [List.cons_append, openQuotes, if_pos rfl, h.openQuotes_append, openQuotes, if_pos rfl,
    openQuotes]
  · congr 2
    omega
  · intro _ _ he
    exact absurd he (by decide)
  · intro _ _ he
    exact absurd he (by decide)

end IsBody

theorem unquote?_quotes {body text : List Char}
    (h : feed StringMode.step .text body = some (text, .text)) :
    unquote? ('\'' :: body ++ ['\'']) = some (String.ofList text) := by
  rw [List.cons_append, unquote?, List.getLast?_concat, List.dropLast_concat, h]
  rfl

/-! ### Reading constants -/

theorem isSigned_of_numeral? {text : List Char} {value : ℚ} (h : numeral? text = some value) :
    isSigned text = true ∧ isSigned ('-' :: text) = true := by
  obtain ⟨c, front, tail, rfl, hc, -, -⟩ := exists_of_numeral? h
  have hsign : (c :: front ++ tail).head? ≠ some '-' := by
    rw [List.cons_append, List.head?_cons]
    intro he
    obtain rfl := Option.some.inj he
    exact absurd hc (by decide)
  constructor
  · rw [isSigned, if_neg hsign, h]
    rfl
  · rw [isSigned, List.head?_cons, if_pos rfl, List.tail_cons, h]
    rfl

theorem read?_quotes {body text : List Char}
    (h : feed StringMode.step .text body = some (text, .text)) :
    Constant.read? ('\'' :: body ++ ['\'']) = some (.string (String.ofList text)) := by
  have hsigned : isSigned ('\'' :: body ++ ['\'']) = false := rfl
  have hword (word : List Char) (hw : word.head? ≠ some '\'') :
      '\'' :: body ++ ['\''] ≠ word := by
    rintro rfl
    exact hw rfl
  have hnull := hword "null".toList (by decide)
  have htrue := hword "true".toList (by decide)
  have hfalse := hword "false".toList (by decide)
  rw [Constant.read?, hsigned, if_neg Bool.false_ne_true, if_neg hnull, if_neg htrue,
    if_neg hfalse, unquote?_quotes h, Option.map_some]

end TypedClient.Script
