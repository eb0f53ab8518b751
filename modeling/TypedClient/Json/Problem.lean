import TypedClient.Json.Number
import TypedClient.Text.Printable

/-!
# What can be wrong with a JSON text

A `Problem` is the cause for which a text is refused: broken JSON, or JSON of
another form than the one asked for. `Problem.message` is its wording. A `Fault`
adds how many bytes of the text had been taken into account, from which the line
and the column follow, and the way to the value that was being read.
-/

namespace TypedClient.Json

/-- A kind of value found where another was asked for. -/
inductive Found where
  /-- The value `null`. -/
  | null
  /-- A truth value. -/
  | bool (value : Bool)
  /-- A number. -/
  | number (value : Number)
  /-- A string. -/
  | string (value : String)
  /-- An array. -/
  | array
  /-- An object. -/
  | object
  deriving DecidableEq, Repr

/-- The cause for which a text is refused. -/
inductive Problem where
  /-- The text ends where a value should stand. -/
  | endInValue
  /-- The text ends inside an array. -/
  | endInArray
  /-- The text ends inside an object. -/
  | endInObject
  /-- The text ends inside a string. -/
  | endInString
  /-- No value starts here. -/
  | valueExpected
  /-- The word is none of `null`, `true` and `false`. -/
  | wordExpected
  /-- A name without a colon after it. -/
  | colonExpected
  /-- Neither a comma nor the end of the array. -/
  | itemEndExpected
  /-- Neither a comma nor the end of the object. -/
  | memberEndExpected
  /-- A member that does not start with a quote. -/
  | nameExpected
  /-- A comma before the end of an array or object. -/
  | trailingComma
  /-- More text than the value asked for. -/
  | trailingText
  /-- A number in none of the written forms. -/
  | invalidNumber
  /-- A number too large for a floating point number. -/
  | numberOutOfRange
  /-- A backslash before a character that needs none. -/
  | invalidEscape
  /-- Half of a surrogate pair without the other. -/
  | loneSurrogate
  /-- A leading surrogate with no escape after it. -/
  | surrogateCutShort
  /-- Bytes that are no character. -/
  | invalidCharacter
  /-- A control character inside a string. -/
  | controlCharacter
  /-- Too many arrays and objects inside each other. -/
  | tooDeep
  /-- A value of another kind than the one asked for. -/
  | wrongKind (found : Found) (wanted : String)
  /-- An array in place of an object that ends before a member that must be there. -/
  | tooShort (length : Nat) (wanted : String)
  /-- A member that must be there is not. -/
  | missingMember (name : String)
  /-- A member is given twice. -/
  | repeatedMember (name : String)
  /-- A word that is none of those allowed. -/
  | unknownChoice (found : String) (allowed : List String)
  deriving DecidableEq, Repr

/-- The wording for a kind of value. -/
def Found.text : Found → String
  | .null => "null"
  | .bool true => "boolean \x60true\x60"
  | .bool false => "boolean \x60false\x60"
  | .number (.int value) => "integer \x60" ++ toString value ++ "\x60"
  | .number n => "floating point \x60" ++ n.text ++ "\x60"
  | .string s => "string " ++ Text.shown s
  | .array => "sequence"
  | .object => "map"

/-- The wording of a problem. -/
def Problem.message : Problem → String
  | .endInValue => "EOF while parsing a value"
  | .endInArray => "EOF while parsing a list"
  | .endInObject => "EOF while parsing an object"
  | .endInString => "EOF while parsing a string"
  | .valueExpected => "expected value"
  | .wordExpected => "expected ident"
  | .colonExpected => "expected \x60:\x60"
  | .itemEndExpected => "expected \x60,\x60 or \x60]\x60"
  | .memberEndExpected => "expected \x60,\x60 or \x60\x7d\x60"
  | .nameExpected => "key must be a string"
  | .trailingComma => "trailing comma"
  | .trailingText => "trailing characters"
  | .invalidNumber => "invalid number"
  | .numberOutOfRange => "number out of range"
  | .invalidEscape => "invalid escape"
  | .loneSurrogate => "lone leading surrogate in hex escape"
  | .surrogateCutShort => "unexpected end of hex escape"
  | .invalidCharacter => "invalid unicode code point"
  | .controlCharacter => "control character (\\u0000-\\u001F) found while parsing a string"
  | .tooDeep => "recursion limit exceeded"
  | .wrongKind found wanted => "invalid type: " ++ found.text ++ ", expected " ++ wanted
  | .tooShort length wanted => "invalid length " ++ toString length ++ ", expected " ++ wanted
  | .missingMember name => "missing field \x60" ++ name ++ "\x60"
  | .repeatedMember name => "duplicate field \x60" ++ name ++ "\x60"
  | .unknownChoice found allowed =>
    "unknown variant \x60" ++ found ++ "\x60, expected one of " ++
      ", ".intercalate (allowed.map fun name => "\x60" ++ name ++ "\x60")

/-- One step from a value to a value inside it. -/
inductive Step where
  /-- To the member of a name. -/
  | member (name : String)
  /-- To the item at an index. -/
  | item (index : Nat)
  /-- To a member whose name could not be read. -/
  | unknown
  deriving DecidableEq, Repr

/-- The wording of a single step. -/
def Step.text : Step → String
  | .member name => name
  | .item index => "[" ++ toString index ++ "]"
  | .unknown => "?"

/-- The wording of the steps after the first: each step to a member is set off by a point. -/
def Step.followingText : List Step → String
  | [] => ""
  | .item index :: rest => Step.text (.item index) ++ followingText rest
  | step :: rest => "." ++ step.text ++ followingText rest

/-- The wording of a way into a value. -/
def Step.pathText : List Step → String
  | [] => ""
  | step :: rest => step.text ++ followingText rest

/-- A refused text: the cause, the way to the value that was being read, and the number of bytes
up to the place that shows it. -/
structure Fault where
  /-- The cause. -/
  problem : Problem
  /-- The bytes that had been taken into account. -/
  offset : Nat
  /-- The way to the value that was being read. -/
  path : List Step
  deriving DecidableEq, Repr

/-- The line and the column after some bytes: the line counts from one, the column from zero. -/
def position (bytes : List UInt8) : Nat × Nat :=
  bytes.foldl
    (fun (line, column) (b : UInt8) => if b = 10 then (line + 1, 0) else (line, column + 1)) (1, 0)

/-- The wording of a fault in the text made of `bytes`, without the way to it. -/
def Fault.plainMessage (bytes : List UInt8) (fault : Fault) : String :=
  let (line, column) := position (bytes.take fault.offset)
  fault.problem.message ++ " at line " ++ toString line ++ " column " ++ toString column

/-- The wording of a fault in the text made of `bytes`, after the way to it. A way of unknown
members alone is left out. -/
def Fault.message (bytes : List UInt8) (fault : Fault) : String :=
  if fault.path.all (· == .unknown) then fault.plainMessage bytes
  else Step.pathText fault.path ++ ": " ++ fault.plainMessage bytes

end TypedClient.Json
