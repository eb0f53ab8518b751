import TypedClient.Proofs.Json.NumberText
import TypedClient.Proofs.Naming.Locals
import TypedClient.Proofs.Script.Constant
import TypedClient.Schema.Typing

/-!
# Reading literals and keys

The literal of a string is read back as that string, its characters may stand in a
literal as they are, and only its first and its last quote have no backslash before
them. So keys are told apart by their texts, and the values of a list are read back
from the union of their literals: no bar in a string separates two of them.
-/

namespace TypedClient.Client

open TypedClient.Script
open TypedClient.Schema (literalUnion)

/-! ### Strings -/

theorem toList_quoted (s : String) :
    (quoted s).toList = '\'' :: s.toList.flatMap literalChar ++ ['\''] := by
  simp [quoted]

theorem unquote?_quoted (s : String) : unquote? (quoted s).toList = some s := by
  rw [toList_quoted, unquote?_quotes (feed_literal s.toList), String.ofList_toList]

theorem standsRaw_of_mem_quoted {s : String} {c : Char} (h : c ∈ (quoted s).toList) :
    standsRaw c = true := by
  rw [toList_quoted, List.mem_append, List.mem_cons, List.mem_singleton] at h
  rcases h with (rfl | h) | rfl
  · decide
  · obtain ⟨d, -, hd⟩ := List.mem_flatMap.mp h
    exact standsRaw_of_mem_literalChar hd
  · decide

theorem isBody_of_mem_hexDigits {digits : List Char} (h : ∀ d ∈ digits, d ∈ hexDigits) :
    IsBody digits := by
  induction digits with
  | nil => exact .nil
  | cons d digits ih =>
    have hd : d ∈ hexDigits := h d List.mem_cons_self
    refine .char ?_ ?_ (ih fun e he => h e (List.mem_cons_of_mem d he))
    · rintro rfl
      exact absurd hd (by decide)
    · rintro rfl
      exact absurd hd (by decide)

theorem isBody_literalChar (c : Char) : IsBody (literalChar c) := by
  rcases literalChar_cases c with ⟨hl, hquote, hback, -⟩ | ⟨mark, digits, hl, -, hdigits⟩
  · rw [hl]
    exact .char hquote hback .nil
  · rw [hl]
    exact .escape mark (isBody_of_mem_hexDigits hdigits)

theorem isBody_literal (text : List Char) : IsBody (text.flatMap literalChar) := by
  induction text with
  | nil => exact .nil
  | cons c rest ih =>
    rw [List.flatMap_cons]
    exact (isBody_literalChar c).append ih

theorem openQuotes_quoted (s : String) :
    openQuotes 0 (quoted s).toList = [0, (quoted s).length - 1] := by
  have hlength : (quoted s).length = (s.toList.flatMap literalChar).length + 2 := by
    rw [← String.length_toList, toList_quoted]
    simp
  rw [hlength, toList_quoted, (isBody_literal s.toList).openQuotes_quotes]
  rfl

/-! ### Keys -/

/-- The name that a key stands for: an identifier for itself, and a string for what it says. -/
def nameOfKey? (text : String) : Option String :=
  if isIdentifier text.toList then some text else unquote? text.toList

theorem nameOfKey?_keyText (name : String) : nameOfKey? (keyText name) = some name := by
  rw [keyText]
  split
  · next h => rw [nameOfKey?, if_pos h]
  · have hquote : ¬ isIdentifier (quoted name).toList = true := by
      intro h
      have hmem : '\'' ∈ (quoted name).toList := by
        rw [toList_quoted]
        exact List.mem_cons_self
      exact absurd (inIdentifier_of_mem_identifier h hmem) (by decide)
    rw [nameOfKey?, if_neg hquote, unquote?_quoted]

theorem keyText_injective : Function.Injective keyText := by
  intro a b h
  have hname := nameOfKey?_keyText a
  rw [h, nameOfKey?_keyText] at hname
  exact (Option.some.inj hname).symm

/-! ### Constants -/

/-- The constant for a value that is neither an array nor an object: a number as it is printed. -/
def constantOf? : Json → Option Constant
  | .string s => some (.string s)
  | .number n => some (.number (Json.number n).print)
  | .bool b => some (.bool b)
  | .null => some .null
  | .array _ => none
  | .object _ => none

theorem isSigned_text (number : Json.Number) : isSigned number.text.toList = true := by
  obtain ⟨numeral, n, hn, ⟨htext, -⟩ | ⟨htext, -⟩⟩ := Json.Number.exists_numeral_text number
  · rw [htext]
    exact (isSigned_of_numeral? hn).1
  · rw [htext, String.toList_append]
    exact (isSigned_of_numeral? hn).2

/-- No number is written with a blank or a quote. -/
theorem isPiece_number (number : Json.Number) : IsPiece number.text.toList := by
  obtain ⟨numeral, n, hn, ⟨htext, -⟩ | ⟨htext, -⟩⟩ := Json.Number.exists_numeral_text number
  all_goals
    have hplain : ∀ c ∈ numeral.toList, c ≠ ' ' ∧ c ≠ '\'' := by
      intro c hc
      constructor
      · rintro rfl
        exact absurd (isDigit_or_mem_of_numeral? hn hc) (by decide)
      · rintro rfl
        exact absurd (isDigit_or_mem_of_numeral? hn hc) (by decide)
  · rw [htext]
    exact isPiece_of_plain hplain
  · rw [htext, String.toList_append]
    exact isPiece_of_plain (List.forall_mem_cons.mpr ⟨by decide, hplain⟩)

/-- The text of a literal is read as its constant. -/
theorem read?_text {value : Json} {constant : Constant} (h : constantOf? value = some constant) :
    Constant.read? (Literal.ofJson value).text.toList = some constant := by
  cases value with
  | string s =>
    obtain rfl := Option.some.inj h
    rw [Literal.ofJson, Literal.text, toList_quoted, read?_quotes (feed_literal s.toList),
      String.ofList_toList]
  | number n =>
    obtain rfl := Option.some.inj h
    rw [Literal.ofJson, Literal.text, Constant.read?, if_pos (isSigned_text n),
      String.ofList_toList, Json.print]
  | bool b =>
    obtain rfl := Option.some.inj h
    cases b <;> rfl
  | null =>
    obtain rfl := Option.some.inj h
    rfl
  | array items => simp [constantOf?] at h
  | object members => simp [constantOf?] at h

theorem isPiece_text {value : Json} {constant : Constant} (h : constantOf? value = some constant) :
    IsPiece (Literal.ofJson value).text.toList := by
  cases value with
  | string s =>
    rw [Literal.ofJson, Literal.text, toList_quoted]
    exact (isBody_literal s.toList).isPiece
  | number n => exact isPiece_number n
  | bool b => cases b <;> exact isPiece_of_plain (List.forall_iff_forall_mem.mp (by decide))
  | null => exact isPiece_of_plain (List.forall_iff_forall_mem.mp (by decide))
  | array items => simp [constantOf?] at h
  | object members => simp [constantOf?] at h

/-! ### Unions -/

/-- The text of a type on lines of its own. -/
def typeText (type : TypeExpr) : String :=
  "\n".intercalate (type.lines 0 "" "")

theorem toList_typeText_literalUnion (first : Json) (others : List Json) :
    (typeText (literalUnion (first :: others))).toList =
      [' ', '|', ' '].intercalate
        ((first :: others).map fun value => (Literal.ofJson value).text.toList) := by
  rw [typeText, literalUnion, TypeExpr.lines, String.intercalate_singleton, String.append_empty,
    String.empty_append, String.toList_intercalate, ← List.map_cons, List.map_map, List.map_map]
  rfl

/-- Texts that are read as the values they are for are together read as these values. -/
theorem mapM_map_of_mapM {α β γ : Type} {value? : α → Option γ} {read? : β → Option γ}
    {text : α → β} (hread : ∀ a c, value? a = some c → read? (text a) = some c) {items : List α}
    {results : List γ} (h : items.mapM value? = some results) :
    (items.map text).mapM read? = some results := by
  induction items generalizing results with
  | nil => exact h
  | cons item items ih =>
    rw [List.mapM_cons] at h
    obtain ⟨result, hresult, h⟩ := Option.bind_eq_some_iff.mp h
    obtain ⟨others, hothers, h⟩ := Option.bind_eq_some_iff.mp h
    obtain rfl := Option.some.inj h
    rw [List.map_cons, List.mapM_cons, hread item result hresult, ih hothers]
    rfl

theorem exists_of_mapM {α γ : Type} {value? : α → Option γ} {items : List α} {results : List γ}
    (h : items.mapM value? = some results) : ∀ item ∈ items, ∃ c, value? item = some c := by
  induction items generalizing results with
  | nil => simp
  | cons item items ih =>
    rw [List.mapM_cons] at h
    obtain ⟨result, hresult, h⟩ := Option.bind_eq_some_iff.mp h
    obtain ⟨others, hothers, -⟩ := Option.bind_eq_some_iff.mp h
    exact List.forall_mem_cons.mpr ⟨⟨result, hresult⟩, ih hothers⟩

/-- The union of literals is taken apart into the constants that it was made of. -/
theorem mapM_read?_alternatives {values : List Json} {constants : List Constant}
    (hne : values ≠ []) (h : values.mapM constantOf? = some constants) :
    (alternatives .outside [] (typeText (literalUnion values)).toList).mapM Constant.read? =
      some constants := by
  cases values with
  | nil => exact absurd rfl hne
  | cons first others =>
    have hpieces : ∀ value ∈ first :: others, IsPiece (Literal.ofJson value).text.toList := by
      intro value hv
      obtain ⟨constant, hc⟩ := exists_of_mapM h value hv
      exact isPiece_text hc
    obtain ⟨hfirst, hothers⟩ := List.forall_mem_cons.mp hpieces
    have hcut := alternatives_intercalate [] hfirst (List.forall_mem_map.mpr hothers)
    have hread := mapM_map_of_mapM (fun _ _ hc => read?_text hc) h
    rw [toList_typeText_literalUnion, List.map_cons, hcut, List.nil_append]
    exact hread

/-- Literals are read back. The literal of a string is one string, without a character that may
not stand in it and without a quote inside that no backslash escapes; keys are told apart by
their texts, each of which stands for its name; and the union of the literals of some values is
taken apart into these values, in order. -/
theorem literals_read_back (s name : String) {values : List Json} {constants : List Constant}
    (hne : values ≠ []) (h : values.mapM constantOf? = some constants) :
    (unquote? (quoted s).toList = some s ∧
      (∀ c ∈ (quoted s).toList, Text.isControl c = false ∧ c.toNat ≠ 0x2028 ∧ c.toNat ≠ 0x2029) ∧
      openQuotes 0 (quoted s).toList = [0, (quoted s).length - 1]) ∧
    (nameOfKey? (keyText name) = some name ∧ Function.Injective keyText) ∧
    (alternatives .outside [] (typeText (literalUnion values)).toList).mapM Constant.read? =
      some constants := by
  refine ⟨⟨unquote?_quoted s, fun c hc => ?_, openQuotes_quoted s⟩,
    ⟨nameOfKey?_keyText name, keyText_injective⟩, mapM_read?_alternatives hne h⟩
  have hraw := standsRaw_of_mem_quoted hc
  rw [standsRaw] at hraw
  simpa [and_assoc, and_comm, and_left_comm] using hraw

/-- A bar, a quote and a backslash in a string are read back, as are the other kinds of value. -/
theorem mixedValues_read_back :
    let values : List Json := [.string "a | b", .string "it's \\", .number (.int (-3)),
      .bool true, .null]
    let constants : List Constant := [.string "a | b", .string "it's \\", .number "-3",
      .bool true, .null]
    values ≠ [] ∧ values.mapM constantOf? = some constants ∧
      nameOfKey? (keyText "two words") = some "two words" ∧
      (alternatives .outside [] (typeText (literalUnion values)).toList).mapM Constant.read? =
        some constants := by
  intro values constants
  have hne : values ≠ [] := List.cons_ne_nil _ _
  have hconstants : values.mapM constantOf? = some constants := rfl
  obtain ⟨-, ⟨hname, -⟩, hunion⟩ :=
    literals_read_back "it's \\" "two words" hne hconstants
  exact ⟨hne, hconstants, hname, hunion⟩

end TypedClient.Client
