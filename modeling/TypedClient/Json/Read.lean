import TypedClient.Json.Basic
import TypedClient.Json.Consume

/-!
# Reading a value

`readAny` turns the tokens of a value into the value. The state is the stack of
arrays and objects that are still open and what the next token has to be; a fault
names the way to the value at which the text stopped making sense.
-/

namespace TypedClient.Json

/-- Arrays and objects inside each other: so many may be open at once. -/
def maxDepth : Nat := 127

/-- Where a reader stands: the way from the whole text to the value, last step first, the number of
arrays and objects around it, and the length of the text. -/
structure Place where
  /-- The steps to the value, last step first. -/
  way : List Step
  /-- The arrays and objects that are open around the value. -/
  depth : Nat
  /-- The length of the text. -/
  textEnd : Nat

namespace Place

/-- The place of the whole text. -/
def root (textEnd : Nat) : Place := ⟨[], 0, textEnd⟩

/-- The place of a value inside this one. -/
def inside (place : Place) (step : Step) : Place :=
  { place with way := step :: place.way, depth := place.depth + 1 }

/-- A fault at this place. -/
def fault (place : Place) (problem : Problem) (offset : Nat) : Fault :=
  ⟨problem, offset, place.way.reverse⟩

/-- A fault that a token carries, at this place. -/
def carried (place : Place) (broken : Problem × Nat) : Fault :=
  place.fault broken.1 broken.2

/-- A fault seen by looking at a token without taking it. -/
def peeked (place : Place) (problem : Problem) (token : Token) : Fault :=
  place.fault problem (token.start + 1)

/-- A fault at the end of the text. -/
def ended (place : Place) (problem : Problem) : Fault :=
  place.fault problem place.textEnd

end Place

/-- An array or object that is still open. -/
inductive Frame where
  /-- An array, with its items so far, last first. -/
  | array (items : List Json)
  /-- An object, with its members so far and the name of the member being read. -/
  | object (members : List (String × Json)) (name : String)

/-- The step from an open array or object to the value being read in it. -/
def Frame.step : Frame → Step
  | .array items => .item items.length
  | .object _ name => .member name

/-- The array or object with the value that was being read in it. -/
def Frame.push (value : Json) : Frame → Frame
  | .array items => .array (value :: items)
  | .object members name => .object (insert name value members) name

/-- The value of an array or object that is closed. -/
def Frame.value : Frame → Json
  | .array items => .array items.reverse
  | .object members _ => .object members

/-- The place of the value being read inside the open arrays and objects, innermost first. -/
def Place.within (place : Place) (stack : List Frame) : Place :=
  stack.foldr (fun frame outer => outer.inside frame.step) place

/-- What the next token of a value has to be. -/
inductive ReadExpects where
  /-- A value. -/
  | value
  /-- A value, or the end of the array, which was just opened. -/
  | firstItem
  /-- A value after a comma. -/
  | nextItem
  /-- The name of a member, or the end of the object, which was just opened. -/
  | firstName
  /-- The name of a member after a comma. -/
  | nextName
  /-- The colon after a name. -/
  | colon
  /-- A comma, or the end of the innermost array or object. -/
  | separator
  deriving DecidableEq

/-- What is expected next, and the open arrays and objects, innermost first. -/
abbrev ReadState := ReadExpects × List Frame

namespace Read

/-- What happens after a value inside the open arrays and objects. -/
def completed (value : Json) : List Frame → Outcome ReadState Json Fault
  | [] => .done value
  | frame :: outer => .more (.separator, frame.push value :: outer)

/-- The step where a value is expected, other than the end of an array. -/
def valueStep (place : Place) (stack : List Frame) (token : Token) :
    Outcome ReadState Json Fault :=
  let here := place.within stack
  match token.lexeme with
  | .null => completed .null stack
  | .bool b => completed (.bool b) stack
  | .number (.ok n) => completed (.number n) stack
  | .number (.error e) => .failed (here.carried e)
  | .string (.ok s) => completed (.string s) stack
  | .string (.error e) => .failed (here.carried e)
  | .broken kept _ => .failed (here.carried kept)
  | .brokenString kept _ => .failed (here.carried kept)
  | .arrayOpen =>
    if maxDepth ≤ here.depth then .failed (here.peeked .tooDeep token)
    else .more (.firstItem, .array [] :: stack)
  | .objectOpen =>
    if maxDepth ≤ here.depth then .failed (here.peeked .tooDeep token)
    else .more (.firstName, .object [] "" :: stack)
  | _ => .failed (here.peeked .valueExpected token)

/-- The step where the name of a member is expected, other than the end of an object. -/
def nameStep (place : Place) (stack : List Frame) (token : Token) :
    Outcome ReadState Json Fault :=
  let member := (place.within stack.tail).inside .unknown
  match token.lexeme, stack with
  | .string (.ok name), .object members _ :: outer =>
    .more (.colon, .object members name :: outer)
  | .string (.error e), _ => .failed (member.carried e)
  | .brokenString kept _, _ => .failed (member.carried kept)
  | _, _ => .failed (member.peeked .nameExpected token)

/-- The step where a comma or the end of the innermost array or object is expected. -/
def separatorStep (place : Place) (stack : List Frame) (token : Token) :
    Outcome ReadState Json Fault :=
  let around := place.within stack.tail
  match stack, token.lexeme with
  | .array _ :: _, .comma => .more (.nextItem, stack)
  | .object _ _ :: _, .comma => .more (.nextName, stack)
  | .array items :: outer, .arrayClose => completed (Frame.array items).value outer
  | .object members name :: outer, .objectClose =>
    completed (Frame.object members name).value outer
  | .object _ _ :: _, _ => .failed ((around.inside .unknown).peeked .memberEndExpected token)
  | _, _ => .failed (around.peeked .itemEndExpected token)

/-- The step of reading a value at a place. -/
def step (place : Place) : ReadState → Token → Outcome ReadState Json Fault
  | (.value, stack), token => valueStep place stack token
  | (.firstItem, stack), token =>
    match token.lexeme with
    | .arrayClose => completed (.array []) stack.tail
    | _ => valueStep place stack token
  | (.nextItem, stack), token =>
    match token.lexeme with
    | .arrayClose => .failed ((place.within stack.tail).peeked .trailingComma token)
    | _ => valueStep place stack token
  | (.firstName, stack), token =>
    match token.lexeme with
    | .objectClose => completed (.object []) stack.tail
    | _ => nameStep place stack token
  | (.nextName, stack), token =>
    match token.lexeme with
    | .objectClose =>
      .failed (((place.within stack.tail).inside .unknown).peeked .trailingComma token)
    | _ => nameStep place stack token
  | (.colon, stack), token =>
    match token.lexeme with
    | .colon => .more (.value, stack)
    | _ => .failed ((place.within stack.tail).peeked .colonExpected token)
  | (.separator, stack), token => separatorStep place stack token

/-- The fault of a text that ends inside a value: the wording and the place depend on what was
expected. -/
def atEnd (place : Place) : ReadState → Fault
  | (.value, stack) => (place.within stack).ended .endInValue
  | (.firstItem, stack) => (place.within stack.tail).ended .endInArray
  | (.nextItem, stack) => (place.within stack.tail).ended .endInValue
  | (.firstName, stack) => ((place.within stack.tail).inside .unknown).ended .endInObject
  | (.nextName, stack) => ((place.within stack.tail).inside .unknown).ended .endInValue
  | (.colon, stack) => (place.within stack.tail).ended .endInObject
  | (.separator, .object _ _ :: outer) =>
    ((place.within outer).inside .unknown).ended .endInObject
  | (.separator, stack) => (place.within stack.tail).ended .endInArray

end Read

/-- The value that starts the tokens. -/
def readAny (place : Place) (ts : List Token) : Except Fault (Taken Json ts) :=
  consumeTaken (Read.step place) (Read.atEnd place) (.value, []) ts

/-- The value of a text, which nothing may follow. -/
def parse (bytes : List UInt8) : Except Fault Json :=
  let place := Place.root bytes.length
  match readAny place (tokens bytes) with
  | .error fault => .error fault
  | .ok taken =>
    match taken.rest with
    | [] => .ok taken.value
    | token :: _ => .error (place.peeked .trailingText token)

end TypedClient.Json
