import TypedClient.Client.Identifier

/-!
# Joining words

Words stand between spaces, hyphens and underscores. Joined, each starts with a capital,
but for the first one in camel case; within a word only the capitals that follow a small
letter stay. Joining words brings in no character that no identifier has, so that any way
to spell names makes a style with it.
-/

namespace TypedClient.Client

/-- Whether a character stands between words. -/
def isWordBreak (c : Char) : Bool :=
  c == ' ' || c == '-' || c == '_'

/-- Joins words. `capital` says whether the next character starts a word; `previous` is the
character before. The first character of a word is a capital, and a character that does not
follow a small letter becomes small. -/
def joinWords (capital : Bool) (previous : Option Char) : List Char → List Char
  | [] => []
  | c :: rest =>
    if capital then c.toUpper :: joinWords false (some c) rest
    else if isWordBreak c then joinWords true (some c) rest
    else if (previous.map Char.isLower).getD false then c :: joinWords false (some c) rest
    else c.toLower :: joinWords false (some c) rest

/-- The words joined, the first one in small letters. -/
def camelCase (text : List Char) : List Char :=
  joinWords false none text

/-- The words joined, each with a capital. -/
def pascalCase (text : List Char) : List Char :=
  joinWords true none text

/-- What holds of all ASCII characters holds of those of identifiers. -/
private theorem of_inIdentifier {p : Char → Prop} (h : ∀ n < 0x80, p (Char.ofNat n)) {c : Char}
    (hc : inIdentifier c = true) : p c := by
  have hn := h c.toNat (lt_of_inIdentifier hc)
  rwa [Char.ofNat_toNat] at hn

theorem inIdentifier_toUpper {c : Char} (h : inIdentifier c = true) :
    inIdentifier c.toUpper = true := by
  refine of_inIdentifier (p := fun c => inIdentifier c = true → inIdentifier c.toUpper = true)
    ?_ h h
  decide +kernel

theorem inIdentifier_toLower {c : Char} (h : inIdentifier c = true) :
    inIdentifier c.toLower = true := by
  refine of_inIdentifier (p := fun c => inIdentifier c = true → inIdentifier c.toLower = true)
    ?_ h h
  decide +kernel

/-- Joining words brings in no character that no identifier has. -/
theorem inIdentifier_of_mem_joinWords {capital : Bool} {previous : Option Char} {text : List Char}
    (hi : ∀ c ∈ text, inIdentifier c = true) :
    ∀ c ∈ joinWords capital previous text, inIdentifier c = true := by
  fun_induction joinWords capital previous text with
  | case1 => simp
  | case2 previous c rest ih =>
    obtain ⟨hc, hr⟩ := List.forall_mem_cons.mp hi
    exact List.forall_mem_cons.mpr ⟨inIdentifier_toUpper hc, ih hr⟩
  | case3 capital previous c rest hcap hb ih => exact ih (List.forall_mem_cons.mp hi).2
  | case4 capital previous c rest hcap hb hl ih =>
    obtain ⟨hc, hr⟩ := List.forall_mem_cons.mp hi
    exact List.forall_mem_cons.mpr ⟨hc, ih hr⟩
  | case5 capital previous c rest hcap hb hl ih =>
    obtain ⟨hc, hr⟩ := List.forall_mem_cons.mp hi
    exact List.forall_mem_cons.mpr ⟨inIdentifier_toLower hc, ih hr⟩

/-- The style that spells names in some way and joins their words by `joinWords`. -/
@[reducible] def NameStyle.ofSpelling (spell : List Char → List Char) : NameStyle where
  spell := spell
  camelCase := Client.camelCase
  pascalCase := Client.pascalCase
  camelCase_inIdentifier _ h := inIdentifier_of_mem_joinWords h
  pascalCase_inIdentifier _ h := inIdentifier_of_mem_joinWords h

end TypedClient.Client
