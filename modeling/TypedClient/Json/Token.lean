import TypedClient.Json.Token.Digits
import TypedClient.Json.Token.Quoted

/-!
# The tokens of a JSON text

`tokens` cuts the bytes of a text into tokens: brackets, commas, colons, words,
numbers and strings, each with the place where it starts and the place after it.
Blanks between them are dropped. A token whose form is broken carries the cause
for both ways of reading it, kept and skipped, and is the last, because no reader
gets past it. A byte that starts no token is a token of its own, so that cutting
never fails.
-/

namespace TypedClient.Json

/-- What a token is. -/
inductive Lexeme where
  /-- An opening square bracket. -/
  | arrayOpen
  /-- A closing square bracket. -/
  | arrayClose
  /-- An opening brace. -/
  | objectOpen
  /-- A closing brace. -/
  | objectClose
  /-- A comma. -/
  | comma
  /-- A colon. -/
  | colon
  /-- The word `null`. -/
  | null
  /-- The word `true` or `false`. -/
  | bool (value : Bool)
  /-- A number of sound form; keeping it may still fail. -/
  | number (value : Except (Problem × Nat) Number)
  /-- A string of sound form; keeping it may still fail. -/
  | string (value : Except (Problem × Nat) String)
  /-- A word or number of broken form: the fault when it is kept and when it is skipped. -/
  | broken (kept skipped : Problem × Nat)
  /-- A string of broken form: the fault when it is kept and when it is skipped. -/
  | brokenString (kept skipped : Problem × Nat)
  /-- A byte that starts no token. -/
  | stray

/-- A token with the number of bytes before it and up to its end. -/
structure Token where
  /-- The bytes before the token. -/
  start : Nat
  /-- The bytes up to the end of the token. -/
  stop : Nat
  /-- What the token is. -/
  lexeme : Lexeme

namespace Token

/-- Whether a byte is a blank between tokens: space, tab, line feed or carriage return. -/
def isSpace (b : UInt8) : Bool :=
  b == 32 || b == 9 || b == 10 || b == 13

/-- A result with its place counted from the start of the text. -/
def shift (start : Nat) {α : Type} : Except (Problem × Nat) α → Except (Problem × Nat) α
  | .ok a => .ok a
  | .error (problem, length) => .error (problem, start + length)

/-- How much of a word is there: none when all of it is, else the place of the fault. -/
def wordFault? (length : Nat) : List UInt8 → List UInt8 → Option (Problem × Nat)
  | [], _ => none
  | _ :: _, [] => some (.endInValue, length)
  | w :: word, b :: rest =>
    if b == w then wordFault? (length + 1) word rest else some (.wordExpected, length + 1)

/-- The token of a word whose first letter stands at `start`; `tail` is the rest of the word. -/
def word (start : Nat) (tail : String) (lexeme : Lexeme) (rest : List UInt8) : Token :=
  match wordFault? (start + 1) tail.toUTF8.toList rest with
  | none => ⟨start, start + 1 + tail.length, lexeme⟩
  | some fault => ⟨start, start + 1, .broken fault fault⟩

/-- The token of the number that stands at `start`. -/
def numberAt (start : Nat) (bytes : List UInt8) : Token :=
  match shift start (keepNumber bytes), shift start (skipNumber bytes) with
  | .ok (n, length), _ => ⟨start, start + length, .number (.ok n)⟩
  | .error kept, .ok length => ⟨start, start + length, .number (.error kept)⟩
  | .error kept, .error skipped => ⟨start, start + 1, .broken kept skipped⟩

/-- The token of the string whose opening quote stands at `start`. -/
def stringAt (start : Nat) (rest : List UInt8) : Token :=
  match shift start (keepString 1 0 none [] rest), shift start (skipString 1 0 rest) with
  | .ok (s, length), _ => ⟨start, start + length, .string (.ok s)⟩
  | .error kept, .ok length => ⟨start, start + length, .string (.error kept)⟩
  | .error kept, .error skipped => ⟨start, start + 1, .brokenString kept skipped⟩

/-- The token that starts with `b` at `start`. -/
def next (start : Nat) (b : UInt8) (rest : List UInt8) : Token :=
  if b == 91 then ⟨start, start + 1, .arrayOpen⟩
  else if b == 93 then ⟨start, start + 1, .arrayClose⟩
  else if b == 123 then ⟨start, start + 1, .objectOpen⟩
  else if b == 125 then ⟨start, start + 1, .objectClose⟩
  else if b == 44 then ⟨start, start + 1, .comma⟩
  else if b == 58 then ⟨start, start + 1, .colon⟩
  else if b == 34 then stringAt start rest
  else if b == 45 || isDigit b then numberAt start (b :: rest)
  else if b == 110 then word start "ull" .null rest
  else if b == 116 then word start "rue" (.bool true) rest
  else if b == 102 then word start "alse" (.bool false) rest
  else ⟨start, start + 1, .stray⟩

/-- Whether the form of a token is broken. -/
def isBroken (token : Token) : Bool :=
  match token.lexeme with
  | .broken _ _ => true
  | .brokenString _ _ => true
  | _ => false

/-- The tokens of the bytes that stand at `start`, `ahead` of which belong to the token before. -/
def scan (start ahead : Nat) : List UInt8 → List Token
  | [] => []
  | b :: rest =>
    match ahead with
    | n + 1 => scan (start + 1) n rest
    | 0 =>
      if isSpace b then scan (start + 1) 0 rest
      else
        let token := next start b rest
        if token.isBroken then [token]
        else token :: scan (start + 1) (token.stop - token.start - 1) rest

end Token

/-- The tokens of a text. -/
def tokens (bytes : List UInt8) : List Token :=
  Token.scan 0 0 bytes

end TypedClient.Json
