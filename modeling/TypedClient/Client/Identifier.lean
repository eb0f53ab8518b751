import TypedClient.Text.Blank

/-!
# Identifiers

The names that a client declares: methods, types and local bindings. They are
made from names of the document by spelling those in ASCII, reducing them to the
characters of identifiers, and joining their words. `slug` gives a normal form
that has no underscore at either end and no two side by side. How texts are spelled
and words are joined is left open: it is a `NameStyle`.
-/

namespace TypedClient.Client

/-- Whether a character may start an identifier. -/
def startsIdentifier (c : Char) : Bool :=
  c.isAlpha || c == '_' || c == '$'

/-- Whether a character may stand in an identifier. -/
def inIdentifier (c : Char) : Bool :=
  c.isAlphanum || c == '_' || c == '$'

/-- The characters of identifiers are ASCII. -/
theorem lt_of_inIdentifier {c : Char} (h : inIdentifier c = true) : c.toNat < 0x80 := by
  have halphanum : c.isAlphanum = (decide ('A'.val ≤ c.val ∧ c.val ≤ 'Z'.val) ||
      (decide ('a'.val ≤ c.val) && decide (c.val ≤ 'z'.val)) ||
      (decide ('0'.val ≤ c.val) && decide (c.val ≤ '9'.val))) := rfl
  have hc : c.toNat = c.val.toNat := rfl
  have hcapital : 'Z'.val.toNat = 90 := rfl
  have hsmall : 'z'.val.toNat = 122 := rfl
  have hdigit : '9'.val.toNat = 57 := rfl
  simp only [inIdentifier, halphanum, Bool.or_eq_true, Bool.and_eq_true, decide_eq_true_eq,
    beq_iff_eq, UInt32.le_iff_toNat_le] at h
  rcases h with (h | rfl) | rfl
  · omega
  · decide
  · decide

/-- Whether a text is an identifier, so that it may be a key without quotes. -/
def isIdentifier : List Char → Bool
  | [] => false
  | c :: rest => startsIdentifier c && rest.all inIdentifier

/-- The identifiers that may not name a local binding. -/
def reservedWords : List String := [
  "break", "case", "catch", "class", "const", "continue", "debugger", "default", "delete", "do",
  "else", "enum", "export", "extends", "false", "finally", "for", "function", "if", "import",
  "in", "instanceof", "new", "null", "return", "super", "switch", "this", "throw", "true", "try",
  "typeof", "var", "void", "while", "with", "yield", "let", "static", "implements", "interface",
  "package", "private", "protected", "public", "await", "arguments", "eval"]

/-- Whether a name may name a local binding. -/
def isBinding (name : String) : Bool :=
  isIdentifier name.toList && !reservedWords.contains name

/-- One underscore for every run of underscores. -/
def collapse : List Char → List Char
  | [] => []
  | [c] => [c]
  | c :: d :: rest => if c = '_' && d = '_' then collapse (d :: rest) else c :: collapse (d :: rest)

/-- The text with an underscore for every character that no identifier has. -/
def mask (text : List Char) : List Char :=
  text.map fun c => if inIdentifier c then c else '_'

/-- What is left of a text that is spelled: one underscore for every run of characters that no
identifier has or that are underscores, and none at the ends. -/
def tidy (text : List Char) : List Char :=
  Text.dropEnds (· == '_') (collapse (mask text))

/-! ### Styles -/

/-- A way to spell names in ASCII and to join their words. -/
class NameStyle where
  /-- A text spelled in ASCII. -/
  spell : List Char → List Char
  /-- The words joined, the first one in small letters. -/
  camelCase : List Char → List Char
  /-- The words joined, each with a capital. -/
  pascalCase : List Char → List Char
  /-- Identifier characters are joined to identifier characters. -/
  camelCase_inIdentifier : ∀ text : List Char, (∀ c ∈ text, inIdentifier c = true) →
    ∀ c ∈ camelCase text, inIdentifier c = true
  /-- Identifier characters are joined to identifier characters, with capitals too. -/
  pascalCase_inIdentifier : ∀ text : List Char, (∀ c ∈ text, inIdentifier c = true) →
    ∀ c ∈ pascalCase text, inIdentifier c = true

variable [NameStyle]

/-- A text spelled in ASCII and reduced to the characters of identifiers. -/
def slug (text : List Char) : List Char :=
  tidy (NameStyle.spell text)

/-- Whether a text starts with a digit. -/
def startsWithDigit (text : List Char) : Bool :=
  (text.head?.map Char.isDigit).getD false

/-- The local binding for a key: the key itself where that may name one, else its words joined,
with an underscore in front of a reserved word or a digit. -/
def bindingName (key : String) : String :=
  if isBinding key then key
  else
    let words := NameStyle.camelCase (slug key.toList)
    let name := String.ofList words
    if words.isEmpty then "_arg"
    else if reservedWords.contains name || startsWithDigit words then "_" ++ name
    else name

/-- The method for an operation. -/
def methodName (operationId : String) : String :=
  let words := NameStyle.camelCase (slug operationId.toList)
  if words.isEmpty then "operation"
  else if startsWithDigit words then "_" ++ String.ofList words
  else String.ofList words

/-- What the names of the types for a method end in. -/
def typeStem (method : String) : String :=
  String.ofList (NameStyle.pascalCase method.toList)

/-- The name of the request type for a suffix. -/
def requestNameFor (suffix : String) : String :=
  "HighSystemsRequest" ++ suffix

/-- The name of the response type for a suffix. -/
def responseNameFor (suffix : String) : String :=
  "HighSystemsResponse" ++ suffix

end TypedClient.Client
